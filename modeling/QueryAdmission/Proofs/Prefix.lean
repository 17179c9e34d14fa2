import QueryAdmission.Proofs.Grants

/-!
# The admission pass as a prefix

What a pass does, told without the pass: of the records that wait, the first ones are given a slot,
as many as there are slots, and nothing else happens to any record but that those which gave their
slot up wait again (`Schedule.pass_prefix`). This holds of every schedule, also of one whose number
of slots in use has nothing to do with its records, or is too high, because the program modelled has
no debug assertion after a pass. A sound scheduler never makes a pass over such a schedule
(`Service.Sound`).
-/

namespace QueryAdmission

namespace Record

variable {r r' : Record}

lemma waitAgain_of_ne (h : r.status ≠ .gaveUp) : r.waitAgain = r := by
  rw [waitAgain, if_neg h]

/-- A record that gave its slot up is not given one. -/
lemma Pass.eq_of_gaveUp (h : Pass r r') (hg : r.status = .gaveUp) :
    r' = r.withStatus .waiting := by
  obtain ⟨hs, hr⟩ := h
  rw [hg] at hs
  generalize r'.status = s at hs hr
  cases hs with
  | stay hne => exact absurd rfl hne
  | again => exact hr

/-- A record that holds a slot is left as it is. -/
lemma Pass.eq_of_holdsSlot (h : Pass r r') (hs : r.holdsSlot) : r' = r := by
  obtain ⟨hp, hr⟩ := h
  rw [holdsSlot] at hs
  generalize r'.status = s', hrs : r.status = s at hp hr hs
  cases hp with
  | stay => rw [hr, ← hrs]; rfl
  | grant | again => cases hs

end Record

namespace Schedule

/-- The records that wait, each beside itself after a pass without a free slot. -/
lemma filter_zip_waitAgain (records : List Record) :
    (records.zip (records.map Record.waitAgain)).filter (·.1.status = .waiting)
      = (records.filter (·.status = .waiting)).map fun r => (r, r) := by
  induction records with
  | nil => rfl
  | cons r rs ih =>
    rw [List.map_cons, List.zip_cons_cons]
    by_cases h : r.status = .waiting
    · have hr : r.waitAgain = r := Record.waitAgain_of_ne (by simp [h])
      rw [List.filter_cons_of_pos (by simpa using h), List.filter_cons_of_pos (by simpa using h), ih,
        hr]
      rfl
    · rw [List.filter_cons_of_neg (by simpa using h), List.filter_cons_of_neg (by simpa using h), ih]

/-- The records that wait, each beside itself after a pass: the first of them were given a slot. -/
lemma filter_zip_handOutSlots (free : Nat) (records : List Record) :
    let waiting := records.filter (·.status = .waiting)
    (records.zip ((handOutSlots free records).2.map Record.waitAgain)).filter
        (·.1.status = .waiting)
      = ((waiting.take free).map fun r => (r, r.withStatus .available))
        ++ (waiting.drop free).map fun r => (r, r) := by
  fun_induction handOutSlots free records with
  | case1 records => exact filter_zip_waitAgain records
  | case2 => rfl
  | case3 free r rs h n rs' heq ih =>
    rw [heq] at ih
    have hr : (r.withStatus .available).waitAgain = r.withStatus .available :=
      Record.waitAgain_of_ne (by simp)
    rw [List.map_cons, List.zip_cons_cons, List.filter_cons_of_pos (by simpa using h),
      List.filter_cons_of_pos (by simpa using h), ih, hr]
    rfl
  | case4 free r rs h n rs' heq ih =>
    rw [heq] at ih
    rw [List.map_cons, List.zip_cons_cons, List.filter_cons_of_neg (by simpa using h),
      List.filter_cons_of_neg (by simpa using h)]
    exact ih

/-- In any schedule: a pass hands out as many slots as are free, or as there are records that wait,
and counts them as in use. No record comes, leaves, or changes its place. Of the records that wait,
the first ones are given a slot, and the others wait on; a record that gave its slot up waits again,
without one; a record that holds a slot stays as it is. But for the status, nothing changes.

A build with debug assertions stops after a pass with more slots in use than `max`, which is so if
and only if there were more before it. -/
theorem pass_prefix (s : Schedule) (max : Nat) :
    let records := s.roster.records
    let records' := (s.pass max).2.roster.records
    let waiting := records.filter (·.status = .waiting)
    let n := min (max - s.running) waiting.length
    (s.pass max).1 = n ∧ (s.pass max).2 = ⟨s.running + n, { s.roster with records := records' }⟩ ∧
      records'.length = records.length ∧
      (records.zip records').filter (·.1.status = .waiting)
        = ((waiting.take n).map fun r => (r, r.withStatus .available))
          ++ (waiting.drop n).map (fun r => (r, r)) ∧
      ∀ p ∈ records.zip records',
        (p.1.status = .gaveUp → p.2 = p.1.withStatus .waiting) ∧
          (p.1.status = .available ∨ p.1.status = .running → p.2 = p.1) := by
  intro records records' waiting n
  have hfst : (s.pass max).1 = n := by
    show (handOutSlots (max - s.running) records).1 = n
    rw [fst_handOutSlots, waiters, List.countP_eq_length_filter]
  have hwaiting : (records.zip records').filter (·.1.status = .waiting)
      = ((waiting.take n).map fun r => (r, r.withStatus .available))
        ++ (waiting.drop n).map fun r => (r, r) := by
    have htake : waiting.take n = waiting.take (max - s.running) := by
      rw [List.take_eq_take_iff]
      omega
    have hdrop : waiting.drop n = waiting.drop (max - s.running) := by
      rw [List.drop_eq_drop_iff]
      omega
    rw [htake, hdrop]
    exact filter_zip_handOutSlots (max - s.running) records
  have hrun : (s.pass max).2.running = s.running + n := by
    rw [← hfst]
    rfl
  refine ⟨hfst, ?_, s.size_pass max, hwaiting, ?_⟩
  · rw [← hrun]
    rfl
  · rintro ⟨r, r'⟩ hp
    have hpass : r.Pass r' := List.forall₂_zip (s.forall₂_pass max) hp
    refine ⟨hpass.eq_of_gaveUp, fun h => hpass.eq_of_holdsSlot ?_⟩
    rcases h with h | h <;> rw [Record.holdsSlot, h] <;> rfl

/-- Five slots are said to be in use, although one record holds one. With seven slots, two of three
queries that wait are given one; with three slots nobody is, and the record that gave its slot up
waits again all the same. -/
theorem pass_prefix_mixed :
    let record (number : Nat) (status : Status) : Record := ⟨⟨⟨number⟩, 1⟩, status, [1], 7, number⟩
    let s : Schedule :=
      ⟨5, ⟨8, 4, [record 1 .gaveUp, record 2 .waiting, record 3 .running, record 4 .waiting,
        record 5 .waiting], 5⟩⟩
    (s.pass 7).1 = 2 ∧
      (s.pass 7).2.roster.records = [record 1 .waiting, record 2 .available, record 3 .running,
        record 4 .available, record 5 .waiting] ∧
      (s.pass 3).2 = ⟨5, ⟨8, 4, [record 1 .waiting, record 2 .waiting, record 3 .running,
        record 4 .waiting, record 5 .waiting], 5⟩⟩ := by
  intro record s
  exact ⟨(s.pass_prefix 7).1, by decide, (s.pass_prefix 3).2.1⟩

end Schedule

end QueryAdmission
