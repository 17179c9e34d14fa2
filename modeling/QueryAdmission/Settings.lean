import QueryAdmission.Interval
import QueryAdmission.Refusal

/-!
# Settings

The bounds under which the scheduler works.
-/

namespace QueryAdmission

/-- The settings of a scheduler. -/
structure Settings where
  /-- How many queries hold a slot at once. -/
  maxConcurrent : UInt64
  /-- How many views one query may affect. -/
  maxAffected : UInt64
  /-- How many queries may be in flight. -/
  maxQueries : UInt64
  /-- How long a waiting query sleeps between two polls. -/
  pollInterval : Interval
  deriving DecidableEq, Repr

namespace Settings

/-- The settings of a scheduler about which nothing is said. -/
def standard : Settings where
  maxConcurrent := 8
  maxAffected := 16
  maxQueries := 1024
  pollInterval := .ofNanos 30000

instance : Inhabited Settings := ⟨standard⟩

/-- A scheduler works only under positive bounds; the first bound that is zero is reported. -/
def check (s : Settings) : Except Refusal Unit :=
  if s.maxConcurrent = 0 then .error (.zeroSetting "max_concurrent_queries")
  else if s.maxAffected = 0 then .error (.zeroSetting "max_affected_tables")
  else if s.maxQueries = 0 then .error (.zeroSetting "max_queries")
  else .ok ()

theorem check_eq_ok {s : Settings} :
    s.check = .ok () ↔ s.maxConcurrent ≠ 0 ∧ s.maxAffected ≠ 0 ∧ s.maxQueries ≠ 0 := by
  unfold check
  split
  · simp_all
  · split
    · simp_all
    · split <;> simp_all

end Settings

end QueryAdmission
