import QueryAdmission.Host
import QueryAdmission.Service
import QueryAdmission.Session
import QueryAdmission.Signals

/-!
# The scheduler among its sessions

All that calls can read and change: the scheduler, the sessions that are open, the signals that
are raised, and the host.
-/

namespace QueryAdmission

/-- Signals that call waiting queries off. -/
inductive Signal where
  /-- The signal of a session. -/
  | session (id : SessionId)
  /-- A signal that is known by its number. -/
  | token (number : Nat)
  /-- A signal that nobody but the waiting query knows. -/
  | unshared
  deriving DecidableEq, Repr

/-- The scheduler, its sessions by ascending number, the signals, and the host. -/
structure World (σ : Type) where
  service : Service
  sessions : List Session
  signals : Signals Signal
  host : σ
  deriving Repr

namespace World

variable {σ : Type}

/-- A scheduler with no session, on a host. -/
def ofService (service : Service) (host : σ) : World σ := ⟨service, [], .quiet, host⟩

/-- The open session of that number. -/
def session? (w : World σ) (id : SessionId) : Option Session := w.sessions.find? (·.id = id)

/-- Change the session of that number. -/
def update (w : World σ) (id : SessionId) (f : Session → Session) : World σ :=
  { w with sessions := w.sessions.map fun s => if s.id = id then f s else s }

/-- Open a session. -/
def openSession (w : World σ) (kind : Session.Kind) : SessionId × World σ :=
  let (id, service) := w.service.openSession
  (id, { w with service, sessions := w.sessions ++ [.fresh id kind] })

/-- Strike a session off the list of open ones. -/
def forget (w : World σ) (id : SessionId) : World σ :=
  { w with sessions := w.sessions.filter (·.id ≠ id) }

/-- Raise a signal. One that nobody shares is out of reach: nothing happens then. -/
def raise (w : World σ) (s : Signal) : World σ :=
  match s with
  | .unshared => w
  | s => { w with signals := w.signals.raise s }

/-- Give a table of a session back to the host. -/
def unlock [Locking σ] (w : World σ) (id : SessionId) (t : TableId) : World σ :=
  { w with host := Locking.unlock w.host id t }

/-- Whether a call keeps others out of the session. -/
def isGuarded (w : World σ) (id : SessionId) : Bool :=
  ((w.session? id).map (·.guarded)).getD false

/-- Whether a utility command is open in the session. -/
def inUtility (w : World σ) (id : SessionId) : Bool :=
  ((w.session? id).map (·.inUtility)).getD false

@[simp] theorem service_update (w : World σ) (id : SessionId) (f : Session → Session) :
    (w.update id f).service = w.service := rfl

@[simp] theorem host_update (w : World σ) (id : SessionId) (f : Session → Session) :
    (w.update id f).host = w.host := rfl

@[simp] theorem service_unlock [Locking σ] (w : World σ) (id : SessionId) (t : TableId) :
    (w.unlock id t).service = w.service := rfl

@[simp] theorem sessions_unlock [Locking σ] (w : World σ) (id : SessionId) (t : TableId) :
    (w.unlock id t).sessions = w.sessions := rfl

@[simp] theorem signals_update (w : World σ) (id : SessionId) (f : Session → Session) :
    (w.update id f).signals = w.signals := rfl

/-- Raising a signal raises that one alone, unless nobody shares it. -/
theorem isRaised_raise (w : World σ) (s t : Signal) :
    (w.raise s).signals.isRaised t
      = (decide (t = s ∧ s ≠ .unshared) || w.signals.isRaised t) := by
  cases s <;> simp [raise]

/-- After a change, the session of that number is the changed one, and any other is as before. -/
theorem session?_update (w : World σ) (id other : SessionId) (f : Session → Session)
    (hf : ∀ s, (f s).id = s.id) :
    (w.update id f).session? other
      = (w.session? other).map fun s => if other = id then f s else s := by
  unfold update session?
  induction w.sessions with
  | nil => rfl
  | cons s ss ih =>
    by_cases ho : s.id = other
    · subst ho
      by_cases hi : s.id = id <;> simp [hi, hf]
    · have h : (if s.id = id then f s else s).id ≠ other := by split <;> simp [hf, ho]
      simp only [List.map_cons, List.find?_cons, h, ho, decide_false]
      exact ih

end World

end QueryAdmission
