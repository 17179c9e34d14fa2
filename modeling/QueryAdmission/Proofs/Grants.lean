import QueryAdmission.Proofs.ArrivalOrder

/-!
# Who is given a slot

Free slots go to the oldest queries that wait. In records that are in the order of arrival, as they
are after any operations (`Run.sorted`), that can be said of each record by itself
(`Sound.records_pass`): a query that waits is given a slot if fewer queries than there are free
slots wait and arrived before it.

When records leave, the others are given the slots that come free. What remains then (`remaining`)
can be told from the records before, and from who leaves.
-/

namespace QueryAdmission

/-! ### Handing out slots, record by record -/

/-- How many of the records wait. -/
def waiters (records : List Record) : Nat := records.countP (·.status = .waiting)

/-- How many of the records wait, and arrived before that one. -/
def waitersBefore (records : List Record) (r : Record) : Nat :=
  records.countP fun x => x.status = .waiting ∧ x.arrival < r.arrival

/-- What becomes of a record when so many slots are handed out to the records. -/
def Record.granted (free : Nat) (records : List Record) (r : Record) : Record :=
  if r.status = .waiting ∧ waitersBefore records r < free then r.withStatus .available else r

section HandOut

variable {free : Nat} {records : List Record} {r x : Record}

@[simp] lemma Record.key_granted : (r.granted free records).key = r.key := by
  rw [granted]
  split_ifs <;> rfl

lemma waitersBefore_cons (h : x.arrival < r.arrival) :
    waitersBefore (x :: records) r
      = waitersBefore records r + if x.status = .waiting then 1 else 0 := by
  simp [waitersBefore, List.countP_cons, h]

lemma waitersBefore_eq_zero (h : ∀ x ∈ records, r.arrival < x.arrival) :
    waitersBefore (r :: records) r = 0 := by
  rw [waitersBefore, List.countP_eq_zero]
  intro x hx
  rcases List.mem_cons.1 hx with rfl | hx
  · simp
  · simp [Nat.lt_asymm (h x hx)]

/-- A record that waits is not among those that wait and arrived before it. -/
lemma waitersBefore_lt_waiters (hr : r ∈ records) (hw : r.status = .waiting) :
    waitersBefore records r < waiters records := by
  induction records with
  | nil => cases hr
  | cons x records ih =>
    have hle : waitersBefore records r ≤ waiters records :=
      List.countP_mono_left fun y _ hy => by simp_all
    rw [waitersBefore, waiters, List.countP_cons, List.countP_cons]
    change waitersBefore records r + _ < waiters records + _
    rcases List.mem_cons.1 hr with rfl | hr
    · simp [hw]
      omega
    · have hlt := ih hr
      by_cases hx : x.status = .waiting
      · by_cases ha : x.arrival < r.arrival <;> simp [hx, ha] <;> omega
      · simp [hx]
        omega

/-- As many slots are handed out as there are, or as there are records that wait. -/
lemma fst_handOutSlots (free : Nat) (records : List Record) :
    (handOutSlots free records).1 = min free (waiters records) := by
  fun_induction handOutSlots free records with
  | case1 => simp
  | case2 => simp [waiters]
  | case3 free r rs h n rs' heq ih =>
    rw [heq] at ih
    have hw : waiters (r :: rs) = waiters rs + 1 := by simp [waiters, h]
    rw [hw]
    show n + 1 = _
    omega
  | case4 free r rs h n rs' heq ih =>
    rw [heq] at ih
    have hw : waiters (r :: rs) = waiters rs := by simp [waiters, h]
    rwa [hw]

/-- The slots go to the oldest ones. -/
lemma snd_handOutSlots (hs : records.Pairwise (·.arrival < ·.arrival)) :
    (handOutSlots free records).2 = records.map (Record.granted free records) := by
  fun_induction handOutSlots free records with
  | case1 records =>
    have hid : Record.granted 0 records = id := by
      funext r
      simp [Record.granted]
    rw [hid, List.map_id]
  | case2 => rfl
  | case3 free r rs h n rs' heq ih =>
    obtain ⟨hr, hrs⟩ := List.pairwise_cons.1 hs
    have ih : rs' = rs.map (Record.granted free rs) := by
      rw [← ih hrs, heq]
    rw [List.map_cons, ih]
    refine congrArg₂ List.cons ?_ ?_
    · simp [Record.granted, h, waitersBefore_eq_zero hr]
    · apply List.map_congr_left
      intro x hx
      simp [Record.granted, waitersBefore_cons (hr x hx), h]
  | case4 free r rs h n rs' heq ih =>
    obtain ⟨hr, hrs⟩ := List.pairwise_cons.1 hs
    have ih : rs' = rs.map (Record.granted (free + 1) rs) := by
      rw [← ih hrs, heq]
    rw [List.map_cons, ih]
    refine congrArg₂ List.cons ?_ ?_
    · simp [Record.granted, h]
    · apply List.map_congr_left
      intro x hx
      simp [Record.granted, waitersBefore_cons (hr x hx), h]

/-- Records of which none has just given its slot up are left as they are at the end of a pass. -/
lemma map_waitAgain (h : ∀ r ∈ records, r.status ≠ .gaveUp) :
    records.map Record.waitAgain = records := by
  conv_rhs => rw [← List.map_id records]
  apply List.map_congr_left
  intro r hr
  rw [Record.waitAgain, if_neg (h r hr)]
  rfl

end HandOut

/-! ### The records after a pass -/

namespace Service

variable {s s₀ : Service} {settings : Settings} {ops : List Op} {key : QueryKey} {r : Record}

lemma records_pass_of_settled (h : ∀ r ∈ s.records, r.status ≠ .gaveUp) :
    s.pass.2.records = (handOutSlots (s.slots - s.running) s.records).2 := by
  show (handOutSlots (s.slots - s.running) s.records).2.map Record.waitAgain = _
  apply map_waitAgain
  intro r hr hg
  rcases mem_handOutSlots hr with hr | ha
  · exact h r hr hg
  · rw [ha] at hg
    cases hg

lemma Sound.records_pass (h : s.Sound) (hs : s.records.Pairwise (·.arrival < ·.arrival)) :
    s.pass.2.records = s.records.map (Record.granted (s.slots - s.running) s.records) := by
  rw [records_pass_of_settled h.settled, snd_handOutSlots hs]

lemma running_pass (s : Service) :
    s.pass.2.running = s.running + min (s.slots - s.running) (waiters s.records) := by
  rw [← fst_handOutSlots]
  rfl

/-- After any operations, the records are in the order of arrival. -/
lemma Run.sorted (hb : build settings = .ok s₀) (hrun : Run s₀ ops s) :
    s.records.Pairwise (·.arrival < ·.arrival) := by
  obtain ⟨rfl, -⟩ := build_eq_ok hb
  have hempty : (ofSettings settings).InTurn (Retreated (ofSettings settings) []) :=
    ⟨.empty _ _ _, fun a ha => by cases ha⟩
  exact (hrun.inTurn (sound_ofSettings settings) hempty).inLine.sorted

end Service

/-! ### The records after some have left -/

/-- How many slots the records with the keys that are kept hold. -/
def held (keep : QueryKey → Bool) (records : List Record) : Nat :=
  (records.filter (keep ·.key)).countP Record.holdsSlot

/-- The records with the keys that are kept, when the slots that are free without the others have
been handed out. -/
def fill (max : Nat) (keep : QueryKey → Bool) (records : List Record) : List Record :=
  (handOutSlots (max - held keep records) (records.filter (keep ·.key))).2

namespace Service

variable {s s₀ : Service} {key : QueryKey} {r : Record}

/-- The records with the keys that are kept, as they are when all others have left. -/
def remaining (s : Service) (keep : QueryKey → Bool) : List Record := fill s.slots keep s.records

/-- A pass over a balanced roster from which records have left, none of which has just given its
slot up. -/
lemma Balanced.records_pass_of_left {s' : Service} (h : s'.Balanced) {keep : QueryKey → Bool}
    (hs : s.Sound) (hset : s'.settings = s.settings)
    (hr : s'.records = s.records.filter (keep ·.key)) : s'.pass.2.records = s.remaining keep := by
  have hrun : s'.running = held keep s.records := by
    rw [h.running_eq, held, ← hr]
    rfl
  rw [records_pass_of_settled, hrun, hr, slots, hset]
  · rfl
  · rw [hr]
    exact fun r hr => hs.settled r (List.mem_of_mem_filter hr)

lemma Sound.records_withdraw (h : s.Sound) (hf : s.find? key = some r) :
    (s.withdraw key).2.records = s.remaining (· ≠ key) := by
  have hb := h.toBalanced.remove hf
  rw [Service.withdraw]
  split
  · next hn =>
    rw [show s.find? key = none from (Prod.mk.inj hn).1] at hf
    cases hf
  · next record roster heq =>
    obtain ⟨hk, rfl⟩ := Prod.mk.inj heq
    rw [show s.find? key = some record from hk] at hf
    cases hf
    refine hb.records_pass_of_left h rfl ?_
    rw [records, Schedule.roster_release]
    rfl

/-- While all slots are in use, and stay so, the departure of a query that waits changes nothing
else. -/
lemma Sound.records_withdraw_of_full (h : s.Sound) (hf : s.find? key = some r)
    (hw : r.holdsSlot = false) (hfull : s.running = s.slots) :
    (s.withdraw key).2.records = s.records.filter (·.key ≠ key) := by
  have hcount := Roster.countP_eq_add h.keys_nodup hf Record.holdsSlot
  have hrun := h.running_eq
  have hfree : s.slots - held (· ≠ key) s.records = 0 := by
    rw [hw] at hcount
    rw [Schedule.slotsInUse, Roster.slotHolders, hcount] at hrun
    rw [← hfull, hrun]
    simp [records, held]
  rw [h.records_withdraw hf, remaining, fill, hfree, Schedule.handOutSlots_zero]

end Service

end QueryAdmission
