import Mathlib.Data.Multiset.Range
import QueryAdmission.Proofs.AtRest
import QueryAdmission.Proofs.Exclusion
import QueryAdmission.Proofs.PlainSession
import QueryAdmission.Proofs.Watch

/-!
# A crew at work

Workers each have a session of their own, so that what goes on in the sessions is traffic in order,
and the session of each worker is a plain one (`Worker.Fits`). What all workers together have done
so far is what the ledger says (`Workload.ledger`). These facts make up what holds of a crew at any
time (`Workload.Crew`); a section of one worker keeps it if it leads that worker to where it should
be and leaves the sessions of the others alone (`Workload.Sequel`).
-/

namespace QueryAdmission

open Status (MayAdmit)

/-! ### One worker -/

namespace Worker

/-- What goes on in the worker's session. -/
def activity? (w : Worker) : Option Activity :=
  match w.phase with
  | .opening | .ready _ | .over _ => none
  | .starting _ _ call => some (.start call true)
  | .entering _ _ key => some (.entering w.session key)
  | .arriving _ _ key | .departing _ _ key | .leaving _ key => some (.inside w.session key)
  | .finishing _ call => some (.finish call)
  | .closing _ call => some (.abort call true)

/-- The session that the worker has open. -/
def seat? (w : Worker) : Option SessionId :=
  match w.phase with
  | .opening | .over _ => none
  | _ => some w.session

/-- The key of the query for which the worker's session has a record. -/
def key? (w : Worker) : Option QueryKey :=
  match w.phase with
  | .opening | .ready _ | .closing _ _ | .over _ => none
  | .starting _ _ call => call.key?
  | .entering _ _ key | .arriving _ _ key | .departing _ _ key | .leaving _ key => key
  | .finishing _ call => some call.key

/-- How many queries of the worker are over, if a worker that has closed its session has executed so
many. -/
def ended (rounds : Nat) (w : Worker) : Nat :=
  match w.phase with
  | .opening => 0
  | .ready round | .starting round _ _ | .entering round _ _ | .arriving round _ _
  | .departing round _ _ | .leaving round _ | .finishing round _ => round
  | .closing _ _ | .over _ => rounds

/-- How many records the worker's session has. -/
def inFlight (w : Worker) : Nat := w.key?.elim 0 fun _ => 1

/-- Whether the worker's session is being closed. -/
def isClosing (w : Worker) : Bool :=
  match w.phase with
  | .closing _ _ => true
  | _ => false

variable {load : Workload} {w : Worker} {o : Option Session}

/-- The worker of that number is executing this query in its session, so deep, and has the tables of
the query locked. -/
structure Runs (load : Workload) (o : Option Session) (number : Nat) (id : SessionId) (round : Nat)
    (e : Errand) (key : Option QueryKey) (nesting : Nat) : Prop where
  round_lt : round < load.rounds
  errand_eq : load.errand? number round = some e
  key_eq : key = some ⟨id, round + 1⟩
  active : ∃ locked, e.tables ⊆ locked ∧
    o = some (.plain id nesting (round + 1) (some ⟨⟨id, round + 1⟩, locked⟩) false)

/-- The worker stands where it should, with its session in that state. -/
def Fits (load : Workload) (o : Option Session) (w : Worker) : Prop :=
  match w.phase with
  | .opening => True
  | .ready round => round ≤ load.rounds ∧ o = some (.plain w.session 0 round none false)
  | .starting round e call =>
    round < load.rounds ∧ load.errand? w.number round = some e ∧ call.session = w.session ∧
      call.InPlainSession (Workload.query round e) e.tables round o
  | .entering round e key => Runs load o w.number w.session round e key 0
  | .arriving round e key | .departing round e key => Runs load o w.number w.session round e key 1
  | .leaving round key => ∃ e, Runs load o w.number w.session round e key 1
  | .finishing round call =>
    round < load.rounds ∧ call.session = w.session ∧ call.InPlainSession (round + 1) o
  | .closing succeeded call =>
    succeeded = true ∧ call.session = w.session ∧ call.InPlainSession load.rounds o
  | .over succeeded => succeeded = true

lemma session_eq_of_activity? {a : Activity} (h : w.Fits load o) (ha : w.activity? = some a) :
    a.session = w.session ∧ w.seat? = some w.session := by
  rw [Fits] at h
  rw [activity?] at ha
  rw [seat?]
  cases hp : w.phase with
  | opening | ready | «over» => simp [hp] at ha
  | entering | arriving | departing | leaving =>
    simp only [hp, Option.some.injEq] at ha
    subst ha
    exact ⟨rfl, rfl⟩
  | starting round e call =>
    simp only [hp, Option.some.injEq] at ha h
    subst ha
    exact ⟨h.2.2.1, rfl⟩
  | finishing round call | closing succeeded call =>
    simp only [hp, Option.some.injEq] at ha h
    subst ha
    exact ⟨h.2.1, rfl⟩

lemma eq_of_mem_seat? {id : SessionId} (h : id ∈ w.seat?) : id = w.session := by
  rw [seat?] at h
  split at h
  · cases h
  · cases h
  · exact (Option.some.inj h).symm

/-- A worker's record is that of a query of the session that it has open. -/
lemma Fits.session_of_key? (h : w.Fits load o) {k : QueryKey} (hk : k ∈ w.key?) :
    k.session = w.session ∧ w.seat? = some w.session := by
  rw [Fits] at h
  rw [key?] at hk
  rw [seat?]
  cases hp : w.phase with
  | opening | ready | closing | «over» => simp [hp] at hk
  | starting round e call =>
    simp only [hp] at h hk
    rw [h.2.2.2.key?_eq hk]
    exact ⟨h.2.2.1, rfl⟩
  | entering round e key | arriving round e key | departing round e key =>
    simp only [hp] at h hk
    rw [h.key_eq] at hk
    cases hk
    exact ⟨rfl, rfl⟩
  | leaving round key =>
    simp only [hp] at h hk
    obtain ⟨e, h⟩ := h
    rw [h.key_eq] at hk
    cases hk
    exact ⟨rfl, rfl⟩
  | finishing round call =>
    simp only [hp] at h hk
    cases hk
    rw [h.2.2.key_eq]
    exact ⟨h.2.1, rfl⟩

/-- A session that a worker has open is open. -/
lemma Fits.session?_ne_none (h : w.Fits load o) (hs : w.seat? ≠ none) : o ≠ none := by
  rintro rfl
  rw [Fits] at h
  rw [seat?] at hs
  cases hp : w.phase with
  | opening | «over» => simp [hp] at hs
  | ready round =>
    rw [hp] at h
    cases h.2
  | starting round e call =>
    rw [hp] at h
    exact h.2.2.2.session?_ne_none rfl
  | entering | arriving | departing =>
    rw [hp] at h
    obtain ⟨_, -, ho⟩ := h.active
    cases ho
  | leaving =>
    rw [hp] at h
    obtain ⟨_, -, ho⟩ := h.choose_spec.active
    cases ho
  | finishing round call =>
    rw [hp] at h
    exact h.2.2.session?_ne_none rfl
  | closing succeeded call =>
    rw [hp] at h
    exact h.2.2.session?_ne_none rfl

/-- A worker without a session is not concerned with any. -/
lemma Fits.of_seat?_eq_none (h : w.Fits load o) (hs : w.seat? = none) (o' : Option Session) :
    w.Fits load o' := by
  rw [Fits] at h ⊢
  rw [seat?] at hs
  cases hp : w.phase with
  | opening => trivial
  | «over» => rwa [hp] at h
  | ready | starting | entering | arriving | departing | leaving | finishing | closing =>
    simp [hp] at hs

end Worker

/-! ### All workers -/

namespace Workload

variable {load : Workload} {world world' : World MemoryHost} {w w' : Worker}
  {ws others : Multiset Worker} {a : Activity}

/-- The ledger after what the workers have done so far. -/
def ledger (load : Workload) (ws : Multiset Worker) : Ledger where
  registered := (ws.map fun w => w.ended load.rounds + w.inFlight).sum
  rejected := 0
  completed := (ws.map (Worker.ended load.rounds)).sum
  swept := 0
  cancelled := 0
  inFlight := (ws.map Worker.inFlight).sum
  maxAffected := load.settings.maxAffected.toNat
  isShut := false

/-- What goes on in the sessions of some workers. -/
def traffic (world : World MemoryHost) (ws : Multiset Worker) : Traffic :=
  ⟨world, ws.filterMap Worker.activity?⟩

/-- The workers of a workload at any time, in the world that they share. -/
structure Crew (load : Workload) (world : World MemoryHost) (ws : Multiset Worker) : Prop where
  ordered : (traffic world ws).Ordered
  surveying : Traffic.Surveying (.ofList load.views) (traffic world ws)
  quiet : world.signals = .quiet
  settings_eq : world.service.settings = load.settings
  ledger_eq : world.service.ledger = load.ledger ws
  numbers : ws.map Worker.number = Multiset.range load.workers
  seats : (ws.filterMap Worker.seat?).Nodup
  housed : ∀ id, world.session? id ≠ none → id ∈ ws.filterMap Worker.seat?
  fits : ∀ w ∈ ws, w.Fits load (world.session? w.session)
  held : ∀ w ∈ ws, ∀ k ∈ w.key?, world.service.status? k ≠ none
  bare : ∀ w ∈ ws, w.isClosing → ∀ k, k.session = w.session → world.service.status? k = none

/-- What a section of one worker leads to, beside which the others stand still: the worker is where
it should be, and nobody else's session is concerned. -/
structure Sequel (load : Workload) (world world' : World MemoryHost) (w w' : Worker)
    (others : Multiset Worker) : Prop where
  ordered : (traffic world' (w' ::ₘ others)).Ordered
  surveying : Traffic.Surveying (.ofList load.views) (traffic world' (w' ::ₘ others))
  quiet : world'.signals = .quiet
  settings_eq : world'.service.settings = world.service.settings
  turnover : world.service.Turnover world'.service w.key? (w.ended load.rounds) w'.key?
    (w'.ended load.rounds)
  number_eq : w'.number = w.number
  free : w'.session ∉ others.filterMap Worker.seat?
  stays : ∀ id ∈ w.seat?, id = w'.session
  elsewhere : ∀ id, id ≠ w'.session → world'.session? id = world.session? id ∧
    ∀ k, k.session = id → MayAdmit (world.service.status? k) (world'.service.status? k)
  seated : world'.session? w'.session ≠ none → w'.seat? = some w'.session
  fits : w'.Fits load (world'.session? w'.session)
  bare : w'.isClosing → ∀ k, k.session = w'.session → world'.service.status? k = none

lemma ledger_cons (w : Worker) (ws : Multiset Worker) :
    load.ledger (w ::ₘ ws) = { load.ledger ws with
      registered := w.ended load.rounds + w.inFlight + (load.ledger ws).registered
      completed := w.ended load.rounds + (load.ledger ws).completed
      inFlight := w.inFlight + (load.ledger ws).inFlight } := by
  simp [ledger]

/-- What a section does to the ledger is what it does for the worker. -/
lemma ledger_turnover {s s' : Service} (h : s.ledger = load.ledger (w ::ₘ others))
    (ht : s.Turnover s' w.key? (w.ended load.rounds) w'.key? (w'.ended load.rounds)) :
    s'.ledger = load.ledger (w' ::ₘ others) := by
  rw [ledger_cons] at h ⊢
  generalize hk : w.key? = o at ht
  generalize hk' : w'.key? = o' at ht
  generalize hn : w.ended load.rounds = n at ht h
  generalize hn' : w'.ended load.rounds = n' at ht
  cases ht with
  | level hl => rw [hl.ledger_eq, h, Worker.inFlight, Worker.inFlight, hk, hk']
  | arrival hl =>
    rw [hl, h, Worker.inFlight, Worker.inFlight, hk, hk']
    simp [Ledger.arrival]
    omega
  | departure hl =>
    rw [hl, h, Worker.inFlight, Worker.inFlight, hk, hk']
    simp [Ledger.departure]
    omega

/-- The sessions of the others are other ones. -/
lemma Sequel.ne (h : load.Sequel world world' w w' others) {v : Worker} (hv : v ∈ others)
    (hs : v.seat? = some v.session) : v.session ≠ w'.session := by
  intro he
  rw [he] at hs
  exact h.free ((Multiset.mem_filterMap _ _).2 ⟨v, hv, hs⟩)

/-- A crew is one after a section of a worker that leads where it should. -/
lemma Crew.sequel (h : load.Crew world (w ::ₘ others))
    (hs : load.Sequel world world' w w' others) : load.Crew world' (w' ::ₘ others) where
  ordered := hs.ordered
  surveying := hs.surveying
  quiet := hs.quiet
  settings_eq := hs.settings_eq.trans h.settings_eq
  ledger_eq := ledger_turnover h.ledger_eq hs.turnover
  numbers := by
    have hn := h.numbers
    rw [Multiset.map_cons] at hn ⊢
    rwa [hs.number_eq]
  seats := by
    have hn := Multiset.nodup_of_le (Multiset.filterMap_le_filterMap _
      (Multiset.le_cons_self others w)) h.seats
    rcases hw : w'.seat? with _ | id
    · rwa [Multiset.filterMap_cons_none _ _ hw]
    · rw [Multiset.filterMap_cons_some _ _ _ hw, Multiset.nodup_cons]
      exact ⟨Worker.eq_of_mem_seat? hw ▸ hs.free, hn⟩
  housed id hid := by
    by_cases hne : id = w'.session
    · subst hne
      exact (Multiset.mem_filterMap _ _).2 ⟨w', Multiset.mem_cons_self _ _, hs.seated hid⟩
    · rw [(hs.elsewhere id hne).1] at hid
      obtain ⟨v, hv, hseat⟩ := (Multiset.mem_filterMap _ _).1 (h.housed id hid)
      rcases Multiset.mem_cons.1 hv with rfl | hv
      · exact absurd (hs.stays id hseat) hne
      · exact (Multiset.mem_filterMap _ _).2 ⟨v, Multiset.mem_cons_of_mem hv, hseat⟩
  fits v hv := by
    rcases Multiset.mem_cons.1 hv with rfl | hv
    · exact hs.fits
    have hf := h.fits v (Multiset.mem_cons_of_mem hv)
    rcases hseat : v.seat? with _ | id
    · exact hf.of_seat?_eq_none hseat _
    · rwa [(hs.elsewhere _ (hs.ne hv (Worker.eq_of_mem_seat? hseat ▸ hseat))).1]
  held v hv k hk := by
    rcases Multiset.mem_cons.1 hv with rfl | hv
    · exact hs.turnover.held (h.held w (Multiset.mem_cons_self w others)) k hk
    have hv' := Multiset.mem_cons_of_mem (b := w) hv
    obtain ⟨hks, hseat⟩ := (h.fits v hv').session_of_key? hk
    rw [ne_eq, ((hs.elsewhere _ (hs.ne hv hseat)).2 k hks).eq_none]
    exact h.held v hv' k hk
  bare v hv hc k hk := by
    rcases Multiset.mem_cons.1 hv with rfl | hv
    · exact hs.bare hc k hk
    have hseat : v.seat? = some v.session := by
      rw [Worker.isClosing] at hc
      rw [Worker.seat?]
      cases hp : v.phase <;> simp [hp] at hc ⊢
    rw [((hs.elsewhere _ (hs.ne hv hseat)).2 k hk).eq_none]
    exact h.bare v (Multiset.mem_cons_of_mem hv) hc k hk

end Workload

end QueryAdmission
