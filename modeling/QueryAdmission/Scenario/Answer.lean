import QueryAdmission.Call.Run
import QueryAdmission.Scenario.Step

/-!
# Answers of a scenario

Every step has an answer: its result, the answers of the steps that were hooked into it, the
contacts it made with the host itself, the background calls that have come to an end, and the world
it left.
-/

namespace QueryAdmission

/-- How a bracket ended. -/
inductive Ending where
  | body (outcome : Outcome)
  | refused (reason : Refusal)
  deriving DecidableEq, Repr

mutual

/-- The result of a step. -/
inductive StepResult where
  | nothing
  | opened (session : SessionId) (kind : Session.Kind)
  | reply (reply : Except Refusal Reply)
  | spawned (number : Nat)
  | record (record : Option Record)
  | registered (record : Except Refusal Record)
  | marked (outcome : Except Refusal Unit)
  | status (status : Option Status)
  | number (n : Nat)
  | flag (b : Bool)
  | owner (session : Option SessionId)
  | tables (tables : List TableId)
  | forgotten (tables : Option (List TableId))
  /-- A bracket: the answers of its body, unless that never began, and how it ended. -/
  | bracket (body : Option (List Answer)) (ending : Ending)
  /-- The call did not come to an end. -/
  | stuck

/-- The answer of a step. -/
inductive Answer where
  | mk (result : StepResult) (hooks : Option (List (List Answer))) (trace : List Contact)
      (landed : List Landed) (world : World (Recorded MemoryHost))

end

end QueryAdmission
