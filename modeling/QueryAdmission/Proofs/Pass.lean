import Mathlib.Data.List.Forall2
import Mathlib.Data.Option.Basic
import QueryAdmission.Proofs.Roster
import QueryAdmission.Schedule

/-!
# What an admission pass does to the roster

A pass changes nothing but statuses, record by record: a waiting record may be given a slot, and a
record that gave its slot up waits again. The slots that it hands out are the slots that the
records hold afterwards and did not hold before.
-/

namespace QueryAdmission

/-! ### One record under a pass -/

/-- What a pass may make of a status. -/
inductive Status.Pass : Status → Status → Prop
  | stay {s : Status} (h : s ≠ .gaveUp) : Pass s s
  | grant : Pass .waiting .available
  | again : Pass .gaveUp .waiting

/-- What a pass may make of a record: the status alone changes. -/
def Record.Pass (r r' : Record) : Prop :=
  Status.Pass r.status r'.status ∧ r' = r.withStatus r'.status

/-- What a pass may make of a status in a schedule in which no record has just given its slot up:
nothing, or a waiting query has a slot now. -/
def Status.MayAdmit (o o' : Option Status) : Prop :=
  o' = o ∨ o = some .waiting ∧ o' = some .available

namespace Status

@[refl] lemma MayAdmit.refl (o : Option Status) : MayAdmit o o := .inl rfl

@[simp] lemma mayAdmit_none {o : Option Status} : MayAdmit none o ↔ o = none := by
  simp [MayAdmit]

@[simp] lemma mayAdmit_running {o : Option Status} :
    MayAdmit (some .running) o ↔ o = some .running := by
  simp [MayAdmit]

@[simp] lemma mayAdmit_available {o : Option Status} :
    MayAdmit (some .available) o ↔ o = some .available := by
  simp [MayAdmit]

lemma MayAdmit.isSome {o o' : Option Status} (h : MayAdmit o o') : o'.isSome = o.isSome := by
  rcases h with rfl | ⟨rfl, rfl⟩ <;> rfl

lemma MayAdmit.eq_none {o o' : Option Status} (h : MayAdmit o o') : o' = none ↔ o = none := by
  rw [← Option.not_isSome_iff_eq_none, ← Option.not_isSome_iff_eq_none, h.isSome]

lemma Pass.mayAdmit {o o' : Option Status} (h : Option.Rel Pass o o') (ho : o ≠ some .gaveUp) :
    MayAdmit o o' := by
  cases h with
  | none => rfl
  | some h =>
    cases h with
    | stay => rfl
    | grant => exact .inr ⟨rfl, rfl⟩
    | again => exact absurd rfl ho

end Status

namespace Record

lemma Pass.key_eq {r r' : Record} (h : Pass r r') : r'.key = r.key := by rw [h.2]; rfl

lemma pass_waitAgain (r : Record) : Pass r r.waitAgain := by
  rw [waitAgain]
  split
  · next h => exact ⟨by rw [h]; exact .again, rfl⟩
  · next h => exact ⟨.stay h, rfl⟩

@[simp] lemma holdsSlot_waitAgain (r : Record) : r.waitAgain.holdsSlot = r.holdsSlot := by
  unfold waitAgain holdsSlot
  split
  · next h => rw [h]; rfl
  · rfl

@[simp] lemma holdsSlot_withStatus (r : Record) (s : Status) :
    (r.withStatus s).holdsSlot = s.holdsSlot := rfl

end Record

/-! ### The whole pass -/

namespace Schedule

lemma forall₂_handOutSlots (free : Nat) (records : List Record) :
    List.Forall₂ Record.Pass records ((handOutSlots free records).2.map Record.waitAgain) := by
  have stay (records : List Record) :
      List.Forall₂ Record.Pass records (records.map Record.waitAgain) := by
    rw [List.forall₂_map_right_iff]
    exact List.forall₂_same.2 fun r _ => r.pass_waitAgain
  fun_induction handOutSlots free records with
  | case1 records => exact stay records
  | case2 => exact .nil
  | case3 free r rs h n rs' heq ih =>
    rw [heq] at ih
    refine .cons ⟨?_, rfl⟩ ih
    rw [h]
    exact .grant
  | case4 free r rs h n rs' heq ih =>
    rw [heq] at ih
    exact .cons r.pass_waitAgain ih

lemma forall₂_pass (s : Schedule) (max : Nat) :
    List.Forall₂ Record.Pass s.roster.records (s.pass max).2.roster.records :=
  forall₂_handOutSlots (max - s.running) s.roster.records

/-- The slots that are handed out are held afterwards. -/
lemma countP_handOutSlots (free : Nat) (records : List Record) :
    (handOutSlots free records).2.countP Record.holdsSlot
      = records.countP Record.holdsSlot + (handOutSlots free records).1 := by
  fun_induction handOutSlots free records with
  | case1 => rfl
  | case2 => rfl
  | case3 free r rs h n rs' heq ih =>
    have hr : r.holdsSlot = false := by rw [Record.holdsSlot, h]; rfl
    rw [heq] at ih
    simp only [List.countP_cons, Record.holdsSlot_withStatus, hr, Status.holdsSlot_available] at ih ⊢
    simp only [↓reduceIte, Bool.false_eq_true]
    omega
  | case4 free r rs h n rs' heq ih =>
    rw [heq] at ih
    simp only [List.countP_cons] at ih ⊢
    omega

lemma slotsInUse_pass (s : Schedule) (max : Nat) :
    (s.pass max).2.slotsInUse = s.slotsInUse + (s.pass max).1 := by
  have h : Record.holdsSlot ∘ Record.waitAgain = Record.holdsSlot :=
    funext Record.holdsSlot_waitAgain
  simpa only [pass, slotsInUse, Roster.slotHolders, List.countP_map, h]
    using countP_handOutSlots (max - s.running) s.roster.records

lemma map_arrival_pass (s : Schedule) (max : Nat) :
    (s.pass max).2.roster.records.map (·.arrival) = s.roster.records.map (·.arrival) := by
  have hpass := s.forall₂_pass max
  generalize (s.pass max).2.roster.records = l' at hpass
  generalize s.roster.records = l at hpass
  induction hpass with
  | nil => rfl
  | cons hxy _ ih => rw [List.map_cons, List.map_cons, ih, hxy.2, Record.arrival_withStatus]

lemma fst_pass_le (s : Schedule) (max : Nat) : (s.pass max).1 ≤ max - s.running :=
  fst_handOutSlots_le _ _

@[simp] lemma size_pass (s : Schedule) (max : Nat) :
    (s.pass max).2.roster.size = s.roster.size :=
  (s.forall₂_pass max).length_eq.symm

@[simp] lemma roster_release (s : Schedule) (r : Record) : (s.release r).roster = s.roster := by
  rw [release]
  split <;> rfl

lemma roster_foldl_release (l : List Record) (s : Schedule) :
    (l.foldl release s).roster = s.roster := by
  induction l generalizing s with
  | nil => rfl
  | cons r l ih => rw [List.foldl_cons, ih, roster_release]

/-- No record is left that has given its slot up and does not wait yet. -/
lemma status_ne_gaveUp_pass (s : Schedule) (max : Nat) :
    ∀ r ∈ (s.pass max).2.roster.records, r.status ≠ .gaveUp := by
  intro r hr
  obtain ⟨r', -, rfl⟩ := List.mem_map.1 hr
  rw [Record.waitAgain]
  split
  · simp
  · assumption

end Schedule

/-! ### Records by key -/

namespace Roster

variable {r r' : Roster}

/-- A pass changes what a key finds as it changes a record. -/
lemma rel_find? (h : List.Forall₂ Record.Pass r.records r'.records) (key : QueryKey) :
    Option.Rel Record.Pass (r.find? key) (r'.find? key) := by
  unfold find?
  generalize r.records = l, r'.records = l' at h
  induction h with
  | nil => exact .none
  | @cons a b l l' hab _ ih =>
    by_cases hk : a.key = key
    · rw [List.find?_cons_of_pos (by simpa using hk),
        List.find?_cons_of_pos (by simpa [hab.key_eq] using hk)]
      exact .some hab
    · rw [List.find?_cons_of_neg (by simpa using hk),
        List.find?_cons_of_neg (by simpa [hab.key_eq] using hk)]
      exact ih

/-- A pass changes the status of every key as it changes that of a record. -/
lemma rel_status? (h : List.Forall₂ Record.Pass r.records r'.records) (key : QueryKey) :
    Option.Rel Status.Pass (r.status? key) (r'.status? key) := by
  have hrel := rel_find? h key
  unfold status?
  generalize r.find? key = o, r'.find? key = o' at hrel
  cases hrel with
  | none => exact .none
  | some h => exact .some h.1

end Roster

end QueryAdmission
