import QueryAdmission.Call.Progress

/-!
# The lock pass

A lock pass takes tables for a session, one after the other and without waiting. Tables that the
session holds already are passed over: they belong to whatever took them. At the first table that
is refused, the pass gives back what it took, the last table first, and so ends as it began.
-/

namespace QueryAdmission

/-- A lock pass in progress. Tables that were taken stand with the last one first. -/
inductive LockPass where
  /-- About to ask whether the session holds `table`. -/
  | asking (table : TableId) (left taken : List TableId)
  /-- About to take `table`. -/
  | attempting (table : TableId) (left taken : List TableId)
  /-- About to give `table` back, because `refused` was refused. -/
  | undoing (table : TableId) (left : List TableId) (refused : TableId)
  /-- Over: these tables were taken, in this order. -/
  | took (tables : List TableId)
  /-- Over: nothing was taken, because this table was refused. -/
  | refusedAt (table : TableId)
  deriving DecidableEq, Repr

namespace LockPass

/-- Go on to the tables that are left. -/
def proceed : List TableId → List TableId → LockPass
  | [], taken => took taken.reverse
  | t :: ts, taken => asking t ts taken

/-- Give back what was taken. -/
def undo (refused : TableId) : List TableId → LockPass
  | [] => refusedAt refused
  | t :: ts => undoing t ts refused

/-- A pass over these tables. -/
def ofTables (tables : List TableId) : LockPass := proceed tables []

/-- Make the next contact with the host. -/
def step {σ : Type} [Locking σ] (session : SessionId) (host : σ) : LockPass → σ × LockPass
  | asking t left taken =>
    match Locking.held host session t with
    | (true, host) => (host, proceed left taken)
    | (false, host) => (host, attempting t left taken)
  | attempting t left taken =>
    match Locking.attempt host session t with
    | (true, host) => (host, proceed left (t :: taken))
    | (false, host) => (host, undo t taken)
  | undoing t left refused => (Locking.unlock host session t, undo refused left)
  | took tables => (host, took tables)
  | refusedAt t => (host, refusedAt t)

/-- The contact that is made next. -/
def upcoming : LockPass → Option Site
  | asking t _ _ => some (.held t)
  | attempting t _ _ => some (.attempt t)
  | undoing _ _ _ | took _ | refusedAt _ => none

/-- How many contacts are left at most. -/
def remaining : LockPass → Nat
  | asking _ left taken => 3 * left.length + taken.length + 3
  | attempting _ left taken => 3 * left.length + taken.length + 2
  | undoing _ left _ => left.length + 1
  | took _ | refusedAt _ => 0

theorem remaining_proceed (left taken : List TableId) :
    (proceed left taken).remaining ≤ 3 * left.length + taken.length := by
  cases left <;> simp [proceed, remaining]; omega

theorem remaining_undo (refused : TableId) (taken : List TableId) :
    (undo refused taken).remaining = taken.length := by
  cases taken <;> simp [undo, remaining]

/-- Every contact brings the end of the pass nearer. -/
theorem remaining_step {σ : Type} [Locking σ] (session : SessionId) (host : σ) {p : LockPass}
    (h : 0 < p.remaining) : (p.step session host).2.remaining < p.remaining := by
  cases p with
  | asking t left taken =>
    have := remaining_proceed left taken
    simp only [step]
    split <;> simp only [remaining] at * <;> omega
  | attempting t left taken =>
    have h₁ := remaining_proceed left (t :: taken)
    have h₂ := remaining_undo t taken
    simp only [step]
    split <;> simp only [remaining, List.length_cons] at * <;> omega
  | undoing t left refused =>
    show (undo refused left).remaining < left.length + 1
    rw [remaining_undo]
    exact Nat.lt_succ_self _
  | took tables => simp [remaining] at h
  | refusedAt t => simp [remaining] at h

/-- The whole pass, with no other contact between its own. -/
def run {σ : Type} [Locking σ] (session : SessionId) (host : σ) (p : LockPass) : σ × LockPass :=
  if 0 < p.remaining then
    let next := p.step session host
    run session next.1 next.2
  else (host, p)
termination_by p.remaining
decreasing_by exact remaining_step session host ‹_›

end LockPass

end QueryAdmission
