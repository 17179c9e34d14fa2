/-!
# Query statuses

A query in flight waits for a slot, holds one while it takes its table locks, runs, or has just
given its slot up because a table was locked by another session.
-/

namespace QueryAdmission

/-- Where a query in flight stands. -/
inductive Status where
  /-- Registered, without a slot. -/
  | waiting
  /-- Holds a slot, and is taking its locks. -/
  | available
  /-- Holds a slot and all its locks. -/
  | running
  /-- Has given its slot up; the next admission pass lets it wait again. -/
  | gaveUp
  deriving DecidableEq, Repr

namespace Status

/-- Every status, in the order in which a query goes through them. -/
def all : List Status := [waiting, available, running, gaveUp]

/-- Whether a query of that status occupies one of the slots. -/
def holdsSlot : Status → Bool
  | available | running => true
  | waiting | gaveUp => false

@[simp] theorem holdsSlot_waiting : waiting.holdsSlot = false := rfl
@[simp] theorem holdsSlot_available : available.holdsSlot = true := rfl
@[simp] theorem holdsSlot_running : running.holdsSlot = true := rfl
@[simp] theorem holdsSlot_gaveUp : gaveUp.holdsSlot = false := rfl

/-- The status as it is displayed. -/
def text : Status → String
  | waiting => "WAITING"
  | available => "AVAILABLE"
  | running => "RUNNING"
  | gaveUp => "GAVE UP"

end Status

end QueryAdmission
