/-!
# Latches

A latch holds back whoever waits at it until it is opened, once and for all. Its handles all stand
for the same latch.
-/

namespace QueryAdmission

/-- A latch, with its handles and those who wait at it. -/
structure Latch where
  handles : Nat
  isOpen : Bool
  waiting : Nat
  deriving DecidableEq, Repr

namespace Latch

/-- A closed latch with one handle. -/
def closed : Latch := ⟨1, false, 0⟩

/-- Open the latch: those who wait are let through. Gives how many there were. -/
def release (l : Latch) : Nat × Latch := (l.waiting, { l with isOpen := true, waiting := 0 })

/-- Make another handle. Gives its place. -/
def copy (l : Latch) : Nat × Latch := (l.handles, { l with handles := l.handles + 1 })

/-- Come to the latch. Gives whether one passes; otherwise one waits. -/
def wait (l : Latch) : Bool × Latch :=
  if l.isOpen then (true, l) else (false, { l with waiting := l.waiting + 1 })

/-- For each handle, whether the latch is open. -/
def view (l : Latch) : List Bool := List.replicate l.handles l.isOpen

end Latch

end QueryAdmission
