import QueryAdmission.Call.LockPass
import QueryAdmission.Call.Wait

/-!
# Admission

A query that is registered waits for a slot and then runs a lock pass over its tables. If a table is
refused, it gives its slot up and waits again, so that no query ever waits while it holds a lock
that was taken here. With a slot and all its locks it begins to run.
-/

namespace QueryAdmission

/-- Where an admission stands. -/
inductive Admission.Phase where
  | waiting (wait : Wait)
  /-- In the lock pass; when that is over, about to begin running or to give the slot up. -/
  | locking (pass : LockPass)
  /-- The record is gone: about to give back the tables that are left. -/
  | undoing (left : List TableId)
  deriving DecidableEq, Repr

/-- A query on its way from registration to running. -/
structure Admission where
  key : QueryKey
  tables : List TableId
  signal : Signal
  phase : Admission.Phase
  deriving DecidableEq, Repr

namespace Admission

/-- An admission that begins. -/
def ofKey (key : QueryKey) (tables : List TableId) (signal : Signal) : Admission :=
  ⟨key, tables, signal, .waiting (.ofKey key signal)⟩

/-- Go on in another phase. -/
def inPhase (a : Admission) (phase : Phase) : Admission := { a with phase }

/-- Carry out the next section of an admission. Its result is the tables that were taken. -/
def advance {σ : Type} [Locking σ] (world : World σ) (a : Admission) :
    World σ × Progress Admission (Except Refusal (List TableId)) :=
  match a.phase with
  | .waiting wait =>
    match wait.advance world with
    | (world, .next wait) => (world, .next (a.inPhase (.waiting wait)))
    | (world, .sleep wait) => (world, .sleep (a.inPhase (.waiting wait)))
    | (world, .done (.ok _)) => (world, .next (a.inPhase (.locking (.ofTables a.tables))))
    | (world, .done (.error r)) => (world, .done (.error r))
  | .locking (.took tables) =>
    match world.service.markRunning a.key with
    | (.ok (), service) => ({ world with service }, .done (.ok tables))
    | (.error _, service) => ({ world with service }, .next (a.inPhase (.undoing tables.reverse)))
  | .locking (.refusedAt _) =>
    ({ world with service := world.service.giveUp a.key },
      .next (a.inPhase (.waiting (.ofKey a.key a.signal))))
  | .locking pass =>
    let (host, pass) := pass.step a.key.session world.host
    ({ world with host }, .next (a.inPhase (.locking pass)))
  | .undoing (t :: ts) =>
    (world.unlock a.key.session t, .next (a.inPhase (.undoing ts)))
  | .undoing [] => (world, .done (.error (.aborted a.key)))

/-- The contact that is made next. -/
def upcoming (a : Admission) : Option Site :=
  match a.phase with
  | .locking pass => pass.upcoming
  | .waiting _ | .undoing _ => none

instance : Stepping Admission (Except Refusal (List TableId)) where
  step := advance
  upcoming := upcoming

end Admission

end QueryAdmission
