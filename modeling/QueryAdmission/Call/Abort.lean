import QueryAdmission.Call.Progress

/-!
# The abort of a transaction

When the transaction of a session is aborted, or a part of it, or when the session is closed, the
active query's tables are given back and all records of the session are swept. The session's state
stays guarded from the first section to the last.
-/

namespace QueryAdmission

/-- Where an abort stands. -/
inductive Abort.Phase where
  /-- About to guard the session and to take its active query out. -/
  | taking
  /-- The session is guarded: about to give back the tables that are left, and then to sweep. -/
  | releasing (left : List TableId)
  deriving DecidableEq, Repr

/-- A session whose transaction is aborted. -/
structure Abort where
  session : SessionId
  phase : Abort.Phase
  deriving DecidableEq, Repr

namespace Abort

/-- An abort that begins. -/
def ofSession (session : SessionId) : Abort := ⟨session, .taking⟩

/-- Carry out the next section. -/
def advance {σ : Type} [Locking σ] (world : World σ) (c : Abort) :
    World σ × Progress Abort Unit :=
  match c.phase with
  | .taking =>
    match world.session? c.session with
    | none => (world, .done ())
    | some s =>
      if s.guarded then (world, .sleep c)
      else
        (world.update c.session fun s => s.vacate.guard,
          .next { c with phase := .releasing s.lockedTables.reverse })
  | .releasing (t :: ts) =>
    (world.unlock c.session t, .next { c with phase := .releasing ts })
  | .releasing [] =>
    ({ world with service := (world.service.sweep c.session).2 }.update c.session
      Session.unguard, .done ())

instance : Stepping Abort Unit where
  step := advance
  upcoming _ := none

end Abort

end QueryAdmission
