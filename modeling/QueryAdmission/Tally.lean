/-!
# The tally of scheduler events

The program counts in 64-bit words, which would wrap. Here as elsewhere in the library, what counts
events is a natural number: fewer than 2^64 of them are assumed.
-/

namespace QueryAdmission

/-- How often each event has happened. -/
structure Tally where
  /-- Queries that were given a record. -/
  registered : Nat
  /-- Registrations refused because a resource ran out. -/
  rejected : Nat
  /-- Waiting queries that were given a slot. -/
  admitted : Nat
  /-- Queries that gave their slot up because a table was locked. -/
  retreats : Nat
  /-- Admission passes that a waiting query forced because no slot was in use. -/
  selfHeals : Nat
  /-- Records that left because their query was over. -/
  completed : Nat
  /-- Records that left because their session's transaction was aborted. -/
  swept : Nat
  /-- Waits that a signal called off. -/
  cancelled : Nat
  deriving DecidableEq, Repr

namespace Tally

/-- Nothing has happened. -/
def zero : Tally := ⟨0, 0, 0, 0, 0, 0, 0, 0⟩

/-- The counts in the order of their definition. -/
def toList (t : Tally) : List Nat :=
  [t.registered, t.rejected, t.admitted, t.retreats, t.selfHeals, t.completed, t.swept, t.cancelled]

end Tally

end QueryAdmission
