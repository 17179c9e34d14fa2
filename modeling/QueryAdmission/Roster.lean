import QueryAdmission.Refusal
import QueryAdmission.Status

/-!
# The roster of queries in flight

The roster lists a record for every query in flight, in the order of arrival. It is bounded: a
record lists only so many views, and there are only so many records. Records leave from anywhere,
and those that stay keep their order and their arrival numbers.
-/

namespace QueryAdmission

/-- A query in flight. -/
structure Record where
  key : QueryKey
  status : Status
  affected : List ViewId
  transaction : TransactionId
  /-- The query's number in the order of arrival, counted from one. A natural number, where the
  program has a 64-bit word. -/
  arrival : Nat
  deriving DecidableEq, Repr

namespace Record

/-- Whether the query occupies one of the slots. -/
def holdsSlot (r : Record) : Bool := r.status.holdsSlot

/-- The session that the query belongs to. -/
def session (r : Record) : SessionId := r.key.session

/-- The record with another status. -/
def withStatus (r : Record) (status : Status) : Record := { r with status }

@[simp] theorem key_withStatus (r : Record) (s : Status) : (r.withStatus s).key = r.key := rfl
@[simp] theorem status_withStatus (r : Record) (s : Status) : (r.withStatus s).status = s := rfl
@[simp] theorem arrival_withStatus (r : Record) (s : Status) :
    (r.withStatus s).arrival = r.arrival := rfl

end Record

/-- The queries in flight, in the order of arrival. -/
structure Roster where
  /-- How many records there may be. -/
  capacity : Nat
  /-- How many views a record may list. -/
  maxAffected : Nat
  records : List Record
  /-- How many queries have arrived so far. The program counts in a 64-bit word: fewer than 2^64
  arrivals are assumed. -/
  arrivals : Nat
  deriving DecidableEq, Repr

namespace Roster

/-- A roster without records. -/
def empty (capacity maxAffected : Nat) : Roster := ⟨capacity, maxAffected, [], 0⟩

/-- The record of a key. -/
def find? (r : Roster) (key : QueryKey) : Option Record := r.records.find? (·.key = key)

/-- The status of a key. -/
def status? (r : Roster) (key : QueryKey) : Option Status := (r.find? key).map (·.status)

/-- How many queries are in flight. -/
def size (r : Roster) : Nat := r.records.length

/-- Whether no query is in flight. -/
def isEmpty (r : Roster) : Bool := r.records.isEmpty

/-- Add a waiting record for the key as the last arrival. A key that has a record keeps it, also in
a full roster; a list of views that is too long is refused before anything else. -/
def register (r : Roster) (key : QueryKey) (affected : List ViewId) (transaction : TransactionId) :
    Except Refusal (Record × Roster) :=
  if r.maxAffected < affected.length then
    .error (.shortage (.views affected.length r.maxAffected))
  else match r.find? key with
    | some record => .ok (record, r)
    | none =>
      if r.capacity ≤ r.size then .error (.shortage (.places r.capacity))
      else
        let record : Record := ⟨key, .waiting, affected, transaction, r.arrivals + 1⟩
        .ok (record, { r with records := r.records ++ [record], arrivals := r.arrivals + 1 })

/-- Change the records one by one. -/
def map (r : Roster) (f : Record → Record) : Roster := { r with records := r.records.map f }

/-- Give the record of a key another status. -/
def setStatus (r : Roster) (key : QueryKey) (status : Status) : Roster :=
  r.map fun record => if record.key = key then record.withStatus status else record

/-- Take the record of a key off the roster. -/
def remove (r : Roster) (key : QueryKey) : Option Record × Roster :=
  (r.find? key, { r with records := r.records.filter (·.key ≠ key) })

/-- Take all records of a session off the roster. -/
def removeSession (r : Roster) (session : SessionId) : List Record × Roster :=
  (r.records.filter (·.session = session),
    { r with records := r.records.filter (·.session ≠ session) })

/-- How many records hold a slot. -/
def slotHolders (r : Roster) : Nat := r.records.countP Record.holdsSlot

/-! ### What each operation leaves -/

@[simp] theorem records_empty (c m : Nat) : (empty c m).records = [] := rfl

@[simp] theorem records_map (r : Roster) (f : Record → Record) :
    (r.map f).records = r.records.map f := rfl

@[simp] theorem records_remove (r : Roster) (key : QueryKey) :
    (r.remove key).2.records = r.records.filter (·.key ≠ key) := rfl

@[simp] theorem records_removeSession (r : Roster) (s : SessionId) :
    (r.removeSession s).2.records = r.records.filter (·.session ≠ s) := rfl

@[simp] theorem arrivals_setStatus (r : Roster) (key : QueryKey) (s : Status) :
    (r.setStatus key s).arrivals = r.arrivals := rfl

theorem find?_eq_some_key {r : Roster} {key : QueryKey} {record : Record}
    (h : r.find? key = some record) : record.key = key := by
  simpa using List.find?_some h

theorem find?_eq_none {r : Roster} {key : QueryKey} :
    r.find? key = none ↔ ∀ record ∈ r.records, record.key ≠ key := by
  simp [find?]

end Roster

end QueryAdmission
