import QueryAdmission.Call.Progress

/-!
# The end of a query

When the active query ends, its tables are given back, the last one first, and its record leaves.
The end of a query that is not the active one changes nothing, so that it may be reported twice.
-/

namespace QueryAdmission

/-- Where the end of a query stands. -/
inductive Finish.Phase where
  /-- About to take the query out of its session. -/
  | taking
  /-- About to give back the tables that are left, and then to take the record off the roster. -/
  | releasing (left : List TableId)
  deriving DecidableEq, Repr

/-- A query whose end is reported. -/
structure Finish where
  session : SessionId
  key : QueryKey
  phase : Finish.Phase
  deriving DecidableEq, Repr

namespace Finish

/-- A report that begins. -/
def ofKey (session : SessionId) (key : QueryKey) : Finish := ⟨session, key, .taking⟩

/-- Carry out the next section. -/
def advance {σ : Type} [Locking σ] (world : World σ) (c : Finish) :
    World σ × Progress Finish Unit :=
  match c.phase with
  | .taking =>
    match world.session? c.session with
    | none => (world, .done ())
    | some s =>
      if s.guarded then (world, .sleep c)
      else match s.active with
        | none => (world, .done ())
        | some active =>
          if active.key = c.key then
            (world.update c.session Session.vacate,
              .next { c with phase := .releasing active.locked.reverse })
          else (world, .done ())
  | .releasing (t :: ts) =>
    (world.unlock c.session t, .next { c with phase := .releasing ts })
  | .releasing [] => ({ world with service := (world.service.complete c.key).2 }, .done ())

instance : Stepping Finish Unit where
  step := advance
  upcoming _ := none

end Finish

end QueryAdmission
