import QueryAdmission.World

/-!
# Calls in progress

A call on the scheduler is a sequence of atomic sections: sections of the scheduler, sections of a
session, and single contacts with the host. Between two sections of one call, sections of other
calls may happen. A call in progress is therefore a value that says what remains to be done, and
one step of it carries out the next section.
-/

namespace QueryAdmission

/-- What one step of a call leads to. -/
inductive Progress (γ ρ : Type) where
  /-- The call goes on. -/
  | next (call : γ)
  /-- The call sleeps, and goes on after that. -/
  | sleep (call : γ)
  /-- The call is over. -/
  | done (result : ρ)
  deriving DecidableEq, Repr

/-- A contact with the host that is about to be made, unlocking apart. -/
inductive Site where
  | dependencies (view : ViewId)
  | held (table : TableId)
  | attempt (table : TableId)
  deriving DecidableEq, Repr

/-- Values that are calls in progress, with the type of their results. -/
class Stepping (γ : Type) (ρ : outParam Type) where
  /-- Carry out the next section. -/
  step : {σ : Type} → [Catalogue σ] → [Locking σ] → World σ → γ → World σ × Progress γ ρ
  /-- The contact with which the next section consists, if it is one. -/
  upcoming : γ → Option Site

end QueryAdmission
