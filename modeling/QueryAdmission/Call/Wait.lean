import QueryAdmission.Call.Progress

/-!
# Waiting for a slot

A waiting query looks for its record again and again, and sleeps in between. It leaves by itself
once the scheduler is shut down or its signal is raised, and it stops when its record is gone.
-/

namespace QueryAdmission

/-- Where a wait stands. -/
inductive Wait.Phase where
  /-- About to look for the record. -/
  | looking
  /-- Queued; about to see whether there is a reason to leave. -/
  | pondering
  /-- About to leave. -/
  | leaving (why : Departure)
  deriving DecidableEq, Repr

/-- A query that waits for a slot. -/
structure Wait where
  key : QueryKey
  signal : Signal
  /-- How often the query has slept. -/
  polls : Nat
  phase : Wait.Phase
  deriving DecidableEq, Repr

namespace Wait

/-- A wait that begins. -/
def ofKey (key : QueryKey) (signal : Signal) : Wait := ⟨key, signal, 0, .looking⟩

/-- Why a queued query leaves by itself, if it does: a shut-down counts before a signal. -/
def departure? {σ : Type} (world : World σ) (w : Wait) : Option Departure :=
  if world.service.isShut then some .shutDown
  else if world.signals.isRaised w.signal then some .cancelled
  else none

/-- Carry out the next section of a wait. Its result is how often the query has slept. -/
def advance {σ : Type} (world : World σ) (w : Wait) :
    World σ × Progress Wait (Except Refusal Nat) :=
  match w.phase with
  | .looking =>
    match world.service.look w.key with
    | (.gone, service) => ({ world with service }, .done (.error (.aborted w.key)))
    | (.granted, service) => ({ world with service }, .done (.ok w.polls))
    | (.queued, service) => ({ world with service }, .next { w with phase := .pondering })
  | .pondering =>
    match w.departure? world with
    | some why => (world, .next { w with phase := .leaving why })
    | none => (world, .sleep { w with phase := .looking, polls := w.polls + 1 })
  | .leaving why =>
    ({ world with service := world.service.depart w.key why }, .done (.error (why.refusal w.key)))

/-- Nothing is said to the host while a query waits. -/
theorem host_advance {σ : Type} (world : World σ) (w : Wait) :
    (w.advance world).1.host = world.host := by
  rw [advance]
  rcases w.phase with _ | _ | why
  · rcases world.service.look w.key with ⟨_ | _ | _, service⟩ <;> rfl
  · cases w.departure? world <;> rfl
  · rfl

instance : Stepping Wait (Except Refusal Nat) where
  step := advance
  upcoming _ := none

end Wait

end QueryAdmission
