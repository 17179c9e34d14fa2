import QueryAdmission.Interval

/-!
# Waiting for a condition

A condition is checked again and again until it holds, with a sleep after every check that fails.
Once a check fails after the time is over, the wait is given up. No clock is read: a pace says how
long checks and sleeps take. Main statement: failing checks are tolerated as long as the last one
ends within the time.
-/

namespace QueryAdmission

/-- How long things take, in nanoseconds. -/
structure Pace where
  /-- The time that a check takes. -/
  check : Nat
  /-- By how much a sleep is longer than it was meant to be. -/
  overrun : Nat
  check_pos : 0 < check := by decide
  deriving DecidableEq, Repr

namespace Pace

/-- A check is a matter of nanoseconds. A sleeper is woken up some fifty microseconds late, because
the system puts off what is due so that it can be done together. -/
def typical : Pace := { check := 40, overrun := 55000 }

/-- The time that a sleep takes. Not to sleep takes none. -/
def sleep (p : Pace) (d : Interval) : Nat :=
  if d.toNanos = 0 then 0 else d.toNanos + p.overrun

theorem le_sleep (p : Pace) (d : Interval) : d.toNanos ≤ p.sleep d := by
  unfold sleep
  split <;> omega

end Pace

/-- How long a condition is waited for, and how long the sleep between two checks is. -/
structure Vigil where
  timeout : Interval
  poll : Interval
  deriving DecidableEq, Repr

namespace Vigil

/-- Five seconds, with a check every millisecond. -/
def standard : Vigil := ⟨.ofNanos 5000000000, .ofNanos 1000000⟩

/-- The time that has passed right after the check of that number, counted from one. -/
def elapsed (v : Vigil) (p : Pace) (check : Nat) : Nat :=
  check * p.check + (check - 1) * p.sleep v.poll

/-- How many checks may fail before the wait is given up. -/
def tolerated (v : Vigil) (p : Pace) : Nat :=
  (v.timeout.toNanos + p.sleep v.poll) / (p.check + p.sleep v.poll)

/-- Wait for a condition that holds after so many checks have failed, or never. Gives how many
checks were made, or else what is said when the wait is given up. -/
def await (v : Vigil) (p : Pace) (failures : Option Nat) (message : String) : Except String Nat :=
  match failures with
  | some n => if n ≤ v.tolerated p then .ok (n + 1) else .error (complaint message)
  | none => .error (complaint message)
where
  /-- What is said when the wait is given up. -/
  complaint (message : String) : String := "Timeout after " ++ v.timeout.text ++ ": " ++ message

/-- A failing check is tolerated exactly if it ends within the time. -/
theorem le_tolerated {v : Vigil} {p : Pace} {n : Nat} (h : 0 < n) :
    n ≤ v.tolerated p ↔ v.elapsed p n ≤ v.timeout.toNanos := by
  obtain ⟨m, rfl⟩ : ∃ m, n = m + 1 := ⟨n - 1, by omega⟩
  unfold tolerated elapsed
  rw [Nat.le_div_iff_mul_le (Nat.add_pos_left p.check_pos _)]
  have : (m + 1) * (p.check + p.sleep v.poll)
      = (m + 1) * p.check + m * p.sleep v.poll + p.sleep v.poll := by
    rw [Nat.mul_add, Nat.succ_mul m (p.sleep v.poll)]
    omega
  rw [this, Nat.add_sub_cancel]
  omega

end Vigil

end QueryAdmission
