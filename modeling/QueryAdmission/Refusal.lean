import QueryAdmission.Ident

/-!
# Refusals

The reasons for which a call on the scheduler fails, the stable code of each, and its message.
-/

namespace QueryAdmission

/-- A bounded resource that a registration ran out of. -/
inductive Shortage where
  /-- Every place for a query in flight is taken. -/
  | places (capacity : Nat)
  /-- The query affects more views than a record may list. -/
  | views (count limit : Nat)
  deriving DecidableEq, Repr

/-- What the resource is and how much of it there is. -/
def Shortage.message : Shortage → String
  | .places capacity => "query registry is full (" ++ capacity.repr ++ " in-flight queries)"
  | .views count limit =>
    "query affects " ++ count.repr ++ " materialized views, at most " ++ limit.repr
      ++ " are allowed"

/-- Why a call was refused. -/
inductive Refusal where
  /-- A bounded resource is used up. -/
  | shortage (what : Shortage)
  /-- The query's signal was raised while it waited. -/
  | cancelled (key : QueryKey)
  /-- The query's record was removed while it waited. -/
  | aborted (key : QueryKey)
  /-- The scheduler takes no more queries. -/
  | shutDown
  /-- A setting that has to be positive is zero. -/
  | zeroSetting (name : String)
  deriving DecidableEq, Repr

namespace Refusal

/-- The stable code of a refusal. -/
def code : Refusal → String
  | shortage (.places _) => "SCHEDULER_001"
  | shortage (.views _ _) => "SCHEDULER_002"
  | cancelled _ => "SCHEDULER_003"
  | aborted _ => "SCHEDULER_004"
  | shutDown => "SCHEDULER_005"
  | zeroSetting _ => "SCHEDULER_006"

/-- The refusal in words. -/
def message : Refusal → String
  | shortage what => "capacity exceeded: " ++ what.message
  | cancelled key => "query " ++ key.text ++ " was cancelled while waiting for admission"
  | aborted key => "query " ++ key.text ++ " was removed by an abort while waiting for admission"
  | shutDown => "scheduler has been shut down"
  | zeroSetting name =>
    "invalid scheduler configuration: " ++ name ++ " must be greater than zero"

/-- The resource that ran out, where that is the reason. -/
def shortage? : Refusal → Option Shortage
  | shortage what => some what
  | _ => none

/-- Whether a resource ran out. -/
def isShortage (r : Refusal) : Bool := r.shortage?.isSome

@[simp] theorem isShortage_eq_true {r : Refusal} :
    r.isShortage = true ↔ ∃ what, r = .shortage what := by
  cases r <;> simp [isShortage, shortage?]

end Refusal

end QueryAdmission
