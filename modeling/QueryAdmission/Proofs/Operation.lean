import QueryAdmission.Call.Run
import QueryAdmission.Proofs.Pass

/-!
# Operations on the scheduler

The scheduler's operations as data, and runs of them. A poll of a waiting query is one operation
here: the sections of a `Wait` from one sleep to the next (`runUntilAsleep_wait`).

An operation is also given with the way in which it frees the slot of a record as a parameter
(`applyWith`). Two ways that differ only where no slot is in use then tell whether an operation ever
frees a slot that is not in use.
-/

namespace QueryAdmission

namespace Service

/-- One poll of a waiting query. It looks for its record, and leaves if it is queued and the
scheduler is shut down or the query was called off. Gives how the wait ends, if it does. -/
def poll (s : Service) (key : QueryKey) (called : Bool) : Option (Except Refusal Unit) × Service :=
  match s.look key with
  | (.gone, s) => (some (.error (.aborted key)), s)
  | (.granted, s) => (some (.ok ()), s)
  | (.queued, s) =>
    if s.isShut then (some (.error .shutDown), s.depart key .shutDown)
    else if called then (some (.error (.cancelled key)), s.depart key .cancelled)
    else (none, s)

/-- A wait that looks for its record, up to its end or its next sleep, is a poll. -/
lemma runUntilAsleep_wait {σ : Type} [Catalogue σ] [Locking σ] (w : World σ) (c : Wait)
    (hc : c.phase = .looking) :
    runUntilAsleep 3 w c =
      let (ending, service) := w.service.poll c.key (w.signals.isRaised c.signal)
      ({ w with service },
        match ending with
        | none => .inl { c with polls := c.polls + 1 }
        | some ending => .inr (ending.map fun _ => c.polls)) := by
  obtain ⟨key, signal, polls, phase⟩ := c
  obtain rfl : phase = .looking := hc
  rcases hl : w.service.look key with ⟨_ | _ | _, service⟩
  · simp [runUntilAsleep, Stepping.step, Wait.advance, poll, hl, Except.map]
  · simp [runUntilAsleep, Stepping.step, Wait.advance, poll, hl, Except.map]
  · by_cases hs : service.isShut
    · simp [runUntilAsleep, Stepping.step, Wait.advance, Wait.departure?, poll, hl, hs, Except.map,
        Departure.refusal]
    · by_cases hr : w.signals.isRaised signal
      · simp [runUntilAsleep, Stepping.step, Wait.advance, Wait.departure?, poll, hl, hs, hr,
          Except.map, Departure.refusal]
      · simp [runUntilAsleep, Stepping.step, Wait.advance, Wait.departure?, poll, hl, hs, hr]

/-- An operation on the scheduler. -/
inductive Op where
  | register (key : QueryKey) (affected : List ViewId) (transaction : TransactionId)
  | complete (key : QueryKey)
  | pass
  /-- A poll of a waiting query; `called` is whether the query was called off. -/
  | poll (key : QueryKey) (called : Bool)
  | giveUp (key : QueryKey)
  | markRunning (key : QueryKey)
  | sweep (session : SessionId)
  | shutDown
  deriving DecidableEq, Repr

/-- What an operation leaves. -/
def apply (s : Service) : Op → Service
  | .register key affected transaction => (s.register key affected transaction).2
  | .complete key => (s.complete key).2
  | .pass => s.pass.2
  | .poll key called => (s.poll key called).2
  | .giveUp key => s.giveUp key
  | .markRunning key => (s.markRunning key).2
  | .sweep session => (s.sweep session).2
  | .shutDown => s.shutDown

/-- Whether an admission may carry the operation out: a query is marked as running only while it
holds a slot, or when its record is gone. -/
def Op.Admissible (s : Service) : Op → Prop
  | .markRunning key => ∀ status, s.status? key = some status → status.holdsSlot
  | _ => True

/-- Admissible operations, one after the other. -/
inductive Run (s₀ : Service) : List Op → Service → Prop
  | nil : Run s₀ [] s₀
  | snoc {ops : List Op} {s : Service} (h : Run s₀ ops s) {op : Op} (hop : op.Admissible s) :
      Run s₀ (ops ++ [op]) (s.apply op)

/-! ### Freeing slots in another way -/

section With

variable (release : Schedule → Record → Schedule)

/-- `withdraw`, with another way to free the slot. -/
def withdrawWith (s : Service) (key : QueryKey) : Option Record × Service :=
  match s.schedule.roster.remove key with
  | (none, _) => (none, s)
  | (some record, roster) =>
    (some record, ({ s with schedule := release { s.schedule with roster } record }).pass.2)

/-- `giveUp`, with another way to free the slot. -/
def giveUpWith (s : Service) (key : QueryKey) : Service :=
  match s.find? key with
  | none => s
  | some record =>
    let schedule := (release s.schedule record).setStatus key .gaveUp
    (({ s with schedule }).count fun t => { t with retreats := t.retreats + 1 }).pass.2

/-- `sweep`, with another way to free the slots. -/
def sweepWith (s : Service) (session : SessionId) : Service :=
  match s.schedule.roster.removeSession session with
  | ([], _) => s
  | (removed, roster) =>
    let schedule := removed.foldl release { s.schedule with roster }
    (({ s with schedule }).count fun t => { t with swept := t.swept + removed.length }).pass.2

/-- `depart`, with another way to free the slot. -/
def departWith (s : Service) (key : QueryKey) : Departure → Service
  | .shutDown => (s.withdrawWith release key).2
  | .cancelled =>
    (s.withdrawWith release key).2.count fun t => { t with cancelled := t.cancelled + 1 }

/-- `complete`, with another way to free the slot. -/
def completeWith (s : Service) (key : QueryKey) : Service :=
  match s.withdrawWith release key with
  | (none, s) => s
  | (some _, s) => s.count fun t => { t with completed := t.completed + 1 }

/-- `poll`, with another way to free the slot of a query that leaves. -/
def pollWith (s : Service) (key : QueryKey) (called : Bool) : Service :=
  match s.look key with
  | (.gone, s) | (.granted, s) => s
  | (.queued, s) =>
    if s.isShut then s.departWith release key .shutDown
    else if called then s.departWith release key .cancelled
    else s

/-- `apply`, with another way to free slots. -/
def applyWith (s : Service) : Op → Service
  | .complete key => s.completeWith release key
  | .poll key called => s.pollWith release key called
  | .giveUp key => s.giveUpWith release key
  | .sweep session => s.sweepWith release session
  | op => s.apply op

end With

lemma completeWith_release (s : Service) (key : QueryKey) :
    s.completeWith Schedule.release key = (s.complete key).2 := by
  show (match s.withdraw key with
    | (none, s) => s
    | (some _, s) => s.count fun t => { t with completed := t.completed + 1 }) = _
  rw [complete]
  rcases s.withdraw key with ⟨_ | _, _⟩ <;> rfl

lemma departWith_release (s : Service) (key : QueryKey) (why : Departure) :
    s.departWith Schedule.release key why = s.depart key why := by
  cases why <;> rfl

lemma pollWith_release (s : Service) (key : QueryKey) (called : Bool) :
    s.pollWith Schedule.release key called = (s.poll key called).2 := by
  rw [pollWith, poll]
  rcases s.look key with ⟨_ | _ | _, s'⟩
  · rfl
  · rfl
  · simp only [departWith_release]
    split_ifs <;> rfl

lemma sweepWith_release (s : Service) (session : SessionId) :
    s.sweepWith Schedule.release session = (s.sweep session).2 := by
  rw [sweepWith, sweep]
  rcases s.schedule.roster.removeSession session with ⟨_ | ⟨_, _⟩, _⟩ <;> rfl

/-- The operations themselves free slots by `Schedule.release`. -/
lemma applyWith_release (s : Service) (op : Op) : s.applyWith Schedule.release op = s.apply op := by
  cases op with
  | complete key => exact s.completeWith_release key
  | poll key called => exact s.pollWith_release key called
  | sweep session => exact s.sweepWith_release session
  | giveUp | register | pass | markRunning | shutDown => rfl

end Service

end QueryAdmission
