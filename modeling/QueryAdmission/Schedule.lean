import QueryAdmission.Roster

/-!
# Slots and the admission pass

The schedule is the roster together with the number of slots in use. An admission pass hands free
slots to waiting records in the order of arrival, and then lets the records that gave their slot up
wait again: a record that gave up in the section that runs the pass is not the one that gets the
slot, and it keeps its place.

The program modelled is the one built without its debug assertions. With them it stops if after a
pass more slots are in use than there are, if a slot is released while none is in use, or if the
number in use is not that of the records that hold a slot. Without them, a pass and a release take
that number as it stands: if it is too high a pass hands nothing out, and at zero it stays zero. The
assertions hold of every sound scheduler, and a scheduler stays sound as long as no query is said to
run that does not hold a slot (`Service.Sound.apply`).
-/

namespace QueryAdmission

/-- The roster, and how many slots are in use. -/
structure Schedule where
  running : Nat
  roster : Roster
  deriving DecidableEq, Repr

/-- Hand at most `free` slots to waiting records, in order. Gives how many were handed out, and the
records after that. -/
def handOutSlots : Nat → List Record → Nat × List Record
  | 0, records => (0, records)
  | _ + 1, [] => (0, [])
  | free + 1, r :: rs =>
    if r.status = .waiting then
      let (n, rs') := handOutSlots free rs
      (n + 1, r.withStatus .available :: rs')
    else
      let (n, rs') := handOutSlots (free + 1) rs
      (n, r :: rs')

/-- A record that gave its slot up waits again; any other stays as it is. -/
def Record.waitAgain (r : Record) : Record :=
  if r.status = .gaveUp then r.withStatus .waiting else r

namespace Schedule

/-- A schedule without records, and with all slots free. -/
def empty (capacity maxAffected : Nat) : Schedule := ⟨0, .empty capacity maxAffected⟩

/-- How many slots the records hold. -/
def slotsInUse (s : Schedule) : Nat := s.roster.slotHolders

/-- An admission pass with `max` slots. Gives how many records were given a slot. That no more than
`max` are in use after it is not asserted. -/
def pass (s : Schedule) (max : Nat) : Nat × Schedule :=
  let (n, records) := handOutSlots (max - s.running) s.roster.records
  (n, { running := s.running + n,
        roster := { s.roster with records := records.map Record.waitAgain } })

/-- Free the slot of a record that leaves the roster, if it holds one. That a slot is in use is not
asserted. -/
def release (s : Schedule) (r : Record) : Schedule :=
  if r.holdsSlot then { s with running := s.running - 1 } else s

/-- Give the record of a key another status; the slots in use are not counted anew. -/
def setStatus (s : Schedule) (key : QueryKey) (status : Status) : Schedule :=
  { s with roster := s.roster.setStatus key status }

/-! ### Lengths and keys under a pass -/

theorem fst_handOutSlots_le (free : Nat) (records : List Record) :
    (handOutSlots free records).1 ≤ free := by
  fun_induction handOutSlots free records with
  | case1 => simp
  | case2 => simp
  | case3 free r rs h n rs' heq ih => simp [heq] at ih; omega
  | case4 free r rs h n rs' heq ih => simp [heq] at ih; omega

theorem handOutSlots_zero (records : List Record) : handOutSlots 0 records = (0, records) := by
  cases records <;> rfl

theorem map_key_handOutSlots (free : Nat) (records : List Record) :
    (handOutSlots free records).2.map (·.key) = records.map (·.key) := by
  fun_induction handOutSlots free records with
  | case1 => rfl
  | case2 => rfl
  | case3 free r rs h n rs' heq ih => simp_all
  | case4 free r rs h n rs' heq ih => simp_all

@[simp] theorem key_waitAgain (r : Record) : r.waitAgain.key = r.key := by
  unfold Record.waitAgain; split <;> rfl

theorem map_key_pass (s : Schedule) (max : Nat) :
    (s.pass max).2.roster.records.map (·.key) = s.roster.records.map (·.key) := by
  have h := map_key_handOutSlots (max - s.running) s.roster.records
  simpa [pass, Function.comp_def] using h

end Schedule

end QueryAdmission
