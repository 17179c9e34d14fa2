import QueryAdmission.Ident
import QueryAdmission.Lookup

/-!
# Table locks in memory

A table has at most one owner, a session. An owner may take its lock again, which changes nothing,
and one unlock frees the table; nobody waits for a lock.
-/

namespace QueryAdmission

/-- The tables that are locked, each with the session that owns it. -/
structure LockTable where
  owners : List (TableId × SessionId)
  deriving DecidableEq, Repr

namespace LockTable

/-- A lock table in which every table is free. -/
def empty : LockTable := ⟨[]⟩

/-- The owner of a table. -/
def owner (l : LockTable) (t : TableId) : Option SessionId := l.owners.lookup t

/-- How many tables are locked. -/
def size (l : LockTable) : Nat := l.owners.length

/-- Whether the session owns the table. -/
def held (l : LockTable) (s : SessionId) (t : TableId) : Bool := l.owner t = some s

/-- Take the lock, if the table is free or already the session's. Gives whether the session owns
the table then. -/
def attempt (l : LockTable) (s : SessionId) (t : TableId) : Bool × LockTable :=
  match l.owner t with
  | some o => (o = s, l)
  | none => (true, ⟨(t, s) :: l.owners⟩)

/-- Free the table, if the session owns it. -/
def unlock (l : LockTable) (s : SessionId) (t : TableId) : LockTable :=
  if l.owner t = some s then ⟨l.owners.filter (·.1 ≠ t)⟩ else l

/-- The tables that the session owns, in ascending order. -/
def locksHeld (l : LockTable) (s : SessionId) : List TableId :=
  ((l.owners.filter (·.2 = s)).map (·.1)).mergeSort fun a b => a.number ≤ b.number

/-! ### The owner after each operation -/

@[simp] theorem owner_empty (t : TableId) : empty.owner t = none := rfl

theorem held_eq_true {l : LockTable} {s : SessionId} {t : TableId} :
    l.held s t = true ↔ l.owner t = some s := by simp [held]

theorem fst_attempt (l : LockTable) (s : SessionId) (t : TableId) :
    (l.attempt s t).1 = true ↔ l.owner t = none ∨ l.owner t = some s := by
  unfold attempt; split <;> simp_all

theorem owner_attempt (l : LockTable) (s : SessionId) (t u : TableId) :
    (l.attempt s t).2.owner u = if u = t ∧ l.owner t = none then some s else l.owner u := by
  unfold attempt
  split
  · next o h => simp [h]
  · next h =>
    simp only [owner, lookup_cons_eq_ite, and_true, show l.owners.lookup t = none from h]

theorem owner_unlock (l : LockTable) (s : SessionId) (t u : TableId) :
    (l.unlock s t).owner u = if u = t ∧ l.owner t = some s then none else l.owner u := by
  unfold unlock
  split
  · next h =>
    simp only [h, and_true]
    exact lookup_filter_ne l.owners t u
  · next h => simp [h]

end LockTable

end QueryAdmission
