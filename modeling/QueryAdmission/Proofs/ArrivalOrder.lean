import QueryAdmission.Proofs.SlotAccount

/-!
# The order of arrival

Slots are handed out in the order of arrival. A query that has given its slot up may be overtaken,
and nobody else: as long as a query waits that has not retreated since its arrival, all slots are in
use, and everybody who holds one arrived earlier (`Service.no_overtaking`).

Who has retreated is a matter of the past, and the roster does not tell. So the records are looked
at beside a set of marks (`Roster.InLine`), each for a key and an arrival number, which stand for
the records that have retreated. A mark is made when a query gives up, and marks stay.
-/

namespace QueryAdmission

/-- The keys and arrival numbers of records that have retreated. -/
abbrev Marks := QueryKey → Nat → Prop

/-- Whether a record waits and has not retreated. -/
def Record.Steadfast (marks : Marks) (r : Record) : Prop :=
  r.status = .waiting ∧ ¬marks r.key r.arrival

/-! ### A pass hands slots out in order -/

section HandOut

variable {free : Nat} {records : List Record} {a : Record}

/-- A record is on the list as before, or it has just been given a slot. -/
lemma mem_handOutSlots (ha : a ∈ (handOutSlots free records).2) :
    a ∈ records ∨ a.status = .available := by
  fun_induction handOutSlots free records with
  | case1 => exact .inl ha
  | case2 => exact .inl ha
  | case3 free r rs h n rs' heq ih =>
    rw [heq] at ih
    rcases List.mem_cons.1 ha with rfl | ha
    · exact .inr rfl
    · exact (ih ha).imp_left (List.mem_cons_of_mem r)
  | case4 free r rs h n rs' heq ih =>
    rw [heq] at ih
    rcases List.mem_cons.1 ha with rfl | ha
    · exact .inl List.mem_cons_self
    · exact (ih ha).imp_left (List.mem_cons_of_mem r)

/-- If somebody still waits, then all slots were handed out, and those who were given one stand
before him in the line. -/
lemma handOutSlots_of_waiting (hs : records.Pairwise (·.arrival < ·.arrival))
    (ha : a ∈ (handOutSlots free records).2) (hw : a.status = .waiting) :
    (handOutSlots free records).1 = free ∧
      ∀ b ∈ (handOutSlots free records).2, b ∈ records ∨ b.arrival < a.arrival := by
  fun_induction handOutSlots free records with
  | case1 => exact ⟨rfl, fun b hb => .inl hb⟩
  | case2 => cases ha
  | case3 free r rs h n rs' heq ih =>
    rw [heq] at ih
    obtain ⟨hr, hrs⟩ := List.pairwise_cons.1 hs
    have ha : a ∈ rs' := by
      refine (List.mem_cons.1 ha).resolve_left ?_
      rintro rfl
      cases hw
    obtain ⟨hn, hb⟩ := ih hrs ha
    refine ⟨congrArg (· + 1) hn, fun b hb' => ?_⟩
    rcases List.mem_cons.1 hb' with rfl | hb'
    · have hm : a ∈ rs := by
        refine (mem_handOutSlots (show a ∈ (handOutSlots free rs).2 by rwa [heq])).resolve_right ?_
        rw [hw]
        exact Status.noConfusion
      exact .inr (hr a hm)
    · exact (hb b hb').imp_left (List.mem_cons_of_mem r)
  | case4 free r rs h n rs' heq ih =>
    rw [heq] at ih
    have ha : a ∈ rs' := by
      refine (List.mem_cons.1 ha).resolve_left ?_
      rintro rfl
      exact h hw
    obtain ⟨hn, hb⟩ := ih (List.pairwise_cons.1 hs).2 ha
    refine ⟨hn, fun b hb' => ?_⟩
    rcases List.mem_cons.1 hb' with rfl | hb'
    · exact .inl List.mem_cons_self
    · exact (hb b hb').imp_left (List.mem_cons_of_mem r)

end HandOut

/-! ### Records in line -/

/-- Records in the order of arrival, in which nobody has overtaken a steadfast one. -/
structure Roster.InLine (marks : Marks) (r : Roster) : Prop where
  sorted : r.records.Pairwise (·.arrival < ·.arrival)
  numbered : ∀ x ∈ r.records, x.arrival ≤ r.arrivals
  gaveUp : ∀ x ∈ r.records, x.status = .gaveUp → marks x.key x.arrival
  behind : ∀ a ∈ r.records, a.Steadfast marks →
    ∀ b ∈ r.records, b.holdsSlot → b.arrival < a.arrival

namespace Roster

variable {marks marks' : Marks} {r r' : Roster} {key : QueryKey} {x : Record}

lemma InLine.empty (marks : Marks) (capacity maxAffected : Nat) :
    (Roster.empty capacity maxAffected).InLine marks where
  sorted := .nil
  numbered x hx := by cases hx
  gaveUp x hx := by cases hx
  behind a ha := by cases ha

/-- Records may leave from anywhere. -/
lemma InLine.of_sublist (h : r.InLine marks) (hl : r'.records.Sublist r.records)
    (ha : r'.arrivals = r.arrivals) : r'.InLine marks where
  sorted := h.sorted.sublist hl
  numbered x hx := by
    rw [ha]
    exact h.numbered x (hl.subset hx)
  gaveUp x hx := h.gaveUp x (hl.subset hx)
  behind a ha hs b hb := h.behind a (hl.subset ha) hs b (hl.subset hb)

/-- Whoever is given the next number stands last. -/
lemma sorted_append (hs : r.records.Pairwise (·.arrival < ·.arrival))
    (hn : ∀ y ∈ r.records, y.arrival ≤ r.arrivals) (hx : x.arrival = r.arrivals + 1) :
    (r.records ++ [x]).Pairwise (·.arrival < ·.arrival) := by
  refine List.pairwise_append.2 ⟨hs, List.pairwise_singleton _ _, fun y hy z hz => ?_⟩
  rw [List.mem_singleton.1 hz, hx]
  exact Nat.lt_succ_of_le (hn y hy)

lemma numbered_append (hn : ∀ y ∈ r.records, y.arrival ≤ r.arrivals)
    (hx : x.arrival = r.arrivals + 1) : ∀ y ∈ r.records ++ [x], y.arrival ≤ r.arrivals + 1 := by
  intro y hy
  rcases List.mem_append.1 hy with hy | hy
  · exact Nat.le_succ_of_le (hn y hy)
  · rw [List.mem_singleton.1 hy]
    exact Nat.le_of_eq hx

/-- Whoever arrives stands last. -/
lemma InLine.append (h : r.InLine marks) (hx : x.arrival = r.arrivals + 1)
    (hw : x.status = .waiting) :
    InLine marks { r with records := r.records ++ [x], arrivals := r.arrivals + 1 } where
  sorted := sorted_append h.sorted h.numbered hx
  numbered := numbered_append h.numbered hx
  gaveUp y hy hg := by
    rcases List.mem_append.1 hy with hy | hy
    · exact h.gaveUp y hy hg
    · rw [List.mem_singleton.1 hy, hw] at hg
      cases hg
  behind a ha hs b hb hh := by
    have hb : b ∈ r.records := by
      refine (List.mem_append.1 hb).resolve_right fun hb => ?_
      rw [List.mem_singleton.1 hb, Record.holdsSlot, hw] at hh
      cases hh
    rcases List.mem_append.1 ha with ha | ha
    · exact h.behind a ha hs b hb hh
    · rw [List.mem_singleton.1 ha, hx]
      exact Nat.lt_succ_of_le (h.numbered b hb)

/-- A record may be given another status, if nobody comes to hold a slot by it, and nobody comes to
be steadfast. Who has given his slot up has to be marked. -/
lemma InLine.setStatus (h : r.InLine marks) {s : Status}
    (hm : ∀ k n, marks k n → marks' k n)
    (hs : ∀ x ∈ r.records, x.key = key → s.holdsSlot → x.holdsSlot) (hw : s ≠ .waiting)
    (hg : s = .gaveUp → ∀ x ∈ r.records, x.key = key → marks' x.key x.arrival) :
    (r.setStatus key s).InLine marks' where
  sorted := by
    rw [← List.pairwise_map, map_arrival_setStatus, List.pairwise_map]
    exact h.sorted
  numbered y hy := by
    obtain ⟨x, hx, rfl⟩ := List.mem_map.1 hy
    have hle := h.numbered x hx
    split <;> exact hle
  gaveUp y hy hst := by
    obtain ⟨x, hx, rfl⟩ := List.mem_map.1 hy
    split at hst
    · next hk =>
      rw [if_pos hk]
      exact hg hst x hx hk
    · next hk =>
      rw [if_neg hk]
      exact hm _ _ (h.gaveUp x hx hst)
  behind a ha hst b hb hh := by
    obtain ⟨x, hx, rfl⟩ := List.mem_map.1 ha
    obtain ⟨y, hy, rfl⟩ := List.mem_map.1 hb
    have hxs : x.Steadfast marks ∧ (if x.key = key then x.withStatus s else x) = x := by
      split_ifs at hst ⊢
      · exact absurd hst.1 hw
      · exact ⟨⟨hst.1, fun hmk => hst.2 (hm _ _ hmk)⟩, rfl⟩
    rw [hxs.2]
    have hlt := h.behind x hx hxs.1 y hy
    split at hh
    · next hk =>
      rw [if_pos hk]
      exact hlt (hs y hy hk hh)
    · next hk =>
      rw [if_neg hk]
      exact hlt hh

end Roster

/-! ### The line under the operations -/

namespace Service

/-- A scheduler between two operations: nobody has overtaken a steadfast query, and while one waits
all slots are in use. -/
structure InTurn (marks : Marks) (s : Service) : Prop where
  inLine : s.schedule.roster.InLine marks
  full : ∀ a ∈ s.records, a.Steadfast marks → s.running = s.slots

variable {marks marks' : Marks} {s s' : Service}

lemma InTurn.congr (h : s.InTurn marks) (hs : s'.settings = s.settings)
    (hr : s'.schedule = s.schedule) : s'.InTurn marks := by
  obtain ⟨settings, schedule, _, _, _⟩ := s
  obtain ⟨_, _, _, _, _⟩ := s'
  obtain rfl : _ = settings := hs
  obtain rfl : _ = schedule := hr
  exact ⟨h.inLine, h.full⟩

/-- A pass keeps the line, and hands out all slots if a steadfast query still waits after it. -/
lemma inTurn_pass (hb : s.Balanced) (h : s.schedule.roster.InLine marks) :
    s.pass.2.InTurn marks := by
  have hsettled := s.schedule.status_ne_gaveUp_pass s.slots
  have harr : s.pass.2.records.map (·.arrival) = s.records.map (·.arrival) :=
    s.schedule.map_arrival_pass s.slots
  have origin (x : Record) (hx : x ∈ s.pass.2.records) :
      ∃ y ∈ (handOutSlots (s.slots - s.running) s.records).2, x = y.waitAgain := by
    obtain ⟨y, hy, rfl⟩ := List.mem_map.1 hx
    exact ⟨y, hy, rfl⟩
  -- A steadfast record was on the list as it is: whoever was let wait again is marked.
  have steadfast (a : Record) (ha : a ∈ s.pass.2.records) (hs : a.Steadfast marks) :
      a ∈ (handOutSlots (s.slots - s.running) s.records).2 := by
    obtain ⟨y, hy, rfl⟩ := origin a ha
    by_cases hg : y.status = .gaveUp
    · have hm : y ∈ s.records := by
        refine (mem_handOutSlots hy).resolve_right ?_
        rw [hg]
        exact Status.noConfusion
      rw [Record.waitAgain, if_pos hg] at hs
      exact absurd (h.gaveUp y hm hg) hs.2
    · rwa [Record.waitAgain, if_neg hg]
  have waited (a : Record) (ha : a ∈ s.pass.2.records) (hs : a.Steadfast marks) :=
    handOutSlots_of_waiting h.sorted (steadfast a ha hs) hs.1
  refine ⟨⟨?_, ?_, ?_, ?_⟩, ?_⟩
  · show s.pass.2.records.Pairwise _
    rw [← List.pairwise_map, harr, List.pairwise_map]
    exact h.sorted
  · intro x hx
    have hmem : x.arrival ∈ s.pass.2.records.map (·.arrival) := List.mem_map_of_mem hx
    rw [harr] at hmem
    obtain ⟨y, hy, heq⟩ := List.mem_map.1 hmem
    rw [← heq]
    exact h.numbered y hy
  · intro x hx hg
    exact absurd hg (hsettled x hx)
  · intro a ha hs b hb hh
    obtain ⟨y, hy, rfl⟩ := origin b hb
    have hya : y.waitAgain.arrival = y.arrival := by
      rw [Record.waitAgain]
      split <;> rfl
    rw [Record.holdsSlot_waitAgain] at hh
    rw [hya]
    rcases (waited a ha hs).2 y hy with hy | hlt
    · have hm : a ∈ s.records := by
        refine (mem_handOutSlots (steadfast a ha hs)).resolve_right ?_
        rw [hs.1]
        exact Status.noConfusion
      exact h.behind a hm hs y hy hh
    · exact hlt
  · intro a ha hs
    have hn : (s.schedule.pass s.slots).1 = s.slots - s.running := (waited a ha hs).1
    have hle := hb.running_le
    show s.running + (s.schedule.pass s.slots).1 = s.slots
    omega

lemma InTurn.register (h : s.InTurn marks) (hw : s.Sound) (key : QueryKey)
    (affected : List ViewId) (transaction : TransactionId) :
    (s.register key affected transaction).2.InTurn marks := by
  rw [Service.register]
  split
  · exact h
  · split
    · exact h.congr rfl rfl
    · next record roster heq =>
      rcases Roster.register_eq_ok heq with ⟨-, rfl⟩ | ⟨hf, hc, hr, rfl⟩
      · exact inTurn_pass (hw.toBalanced.congr rfl rfl) h.inLine
      · have hb := hw.toBalanced.arrive record (by rwa [hr]) hc (by rw [hr])
          (s.schedule.roster.arrivals + 1)
        exact inTurn_pass (hb.congr rfl rfl) (h.inLine.append (by rw [hr]) (by rw [hr]))

lemma InTurn.withdraw (h : s.InTurn marks) (hw : s.Sound) (key : QueryKey) :
    (s.withdraw key).2.InTurn marks := by
  rw [Service.withdraw]
  split
  · exact h
  · next record roster heq =>
    obtain ⟨hf, rfl⟩ := Prod.mk.inj heq
    apply inTurn_pass (hw.toBalanced.remove hf)
    rw [Schedule.roster_release]
    exact h.inLine.of_sublist List.filter_sublist rfl

lemma InTurn.complete (h : s.InTurn marks) (hw : s.Sound) (key : QueryKey) :
    (s.complete key).2.InTurn marks := by
  have hk := h.withdraw hw key
  rw [Service.complete]
  split
  · next heq => rwa [heq] at hk
  · next heq =>
    rw [heq] at hk
    exact hk.congr rfl rfl

lemma InTurn.look (h : s.InTurn marks) (hw : s.Sound) (key : QueryKey) :
    (s.look key).2.InTurn marks := by
  rw [Service.look]
  split
  · exact h
  · next status _ =>
    by_cases hc : s.running = 0 ∧ status ≠ .available
    · rw [if_pos hc]
      exact inTurn_pass (hw.toBalanced.count _) h.inLine
    · rw [if_neg hc]
      exact h

lemma InTurn.depart (h : s.InTurn marks) (hw : s.Sound) (key : QueryKey) (why : Departure) :
    (s.depart key why).InTurn marks := by
  cases why with
  | shutDown => exact h.withdraw hw key
  | cancelled => exact (h.withdraw hw key).congr rfl rfl

lemma InTurn.poll (h : s.InTurn marks) (hw : s.Sound) (key : QueryKey) (called : Bool) :
    (s.poll key called).2.InTurn marks := by
  have hl := h.look hw key
  have hwl := hw.look key
  rw [Service.poll]
  split
  · next heq => rwa [heq] at hl
  · next heq => rwa [heq] at hl
  · next s' heq =>
    rw [heq] at hl hwl
    split_ifs
    · exact hl.depart hwl key .shutDown
    · exact hl.depart hwl key .cancelled
    · exact hl

/-- Whoever gives up is marked. -/
lemma InTurn.giveUp (h : s.InTurn marks) (hw : s.Sound) {key : QueryKey}
    (hm : ∀ k n, marks k n → marks' k n)
    (hg : ∀ x, s.find? key = some x → marks' key x.arrival) : (s.giveUp key).InTurn marks' := by
  rw [Service.giveUp]
  rcases hf : s.find? key with _ | record
  · have hsub (a : Record) (ha : a.Steadfast marks') : a.Steadfast marks :=
      ⟨ha.1, fun hk => ha.2 (hm _ _ hk)⟩
    refine ⟨⟨h.inLine.sorted, h.inLine.numbered, ?_, ?_⟩, fun a ha hs => h.full a ha (hsub a hs)⟩
    · intro x hx hst
      exact absurd hst (hw.settled x hx)
    · exact fun a ha hs => h.inLine.behind a ha (hsub a hs)
  · refine inTurn_pass ((hw.toBalanced.giveUp hf).count _) ?_
    show ((s.schedule.release record).roster.setStatus key .gaveUp).InLine marks'
    rw [Schedule.roster_release]
    refine h.inLine.setStatus hm (fun x _ _ hh => by cases hh) (by decide) ?_
    rintro - x hx rfl
    exact hg x ((Roster.find?_eq_some_iff hw.keys_nodup).2 ⟨hx, rfl⟩)

lemma InTurn.markRunning (h : s.InTurn marks) (hw : s.Sound) {key : QueryKey}
    (hk : ∀ status, s.status? key = some status → status.holdsSlot) :
    (s.markRunning key).2.InTurn marks := by
  rw [Service.markRunning]
  split
  · exact h
  · have hs (x : Record) (hx : x ∈ s.records) (hxk : x.key = key) : x.holdsSlot :=
      hk x.status ((Roster.status?_eq_some_iff hw.keys_nodup).2 ⟨x, hx, hxk, rfl⟩)
    have hl : (s.schedule.roster.setStatus key .running).InLine marks :=
      h.inLine.setStatus (fun _ _ h => h) (fun x hx hxk _ => hs x hx hxk) (by decide)
        fun hg => by cases hg
    refine ⟨hl, fun a ha hst => ?_⟩
    obtain ⟨x, hx, rfl⟩ := List.mem_map.1 ha
    split_ifs at hst
    · cases hst.1
    · exact h.full x hx hst

lemma InTurn.sweep (h : s.InTurn marks) (hw : s.Sound) (session : SessionId) :
    (s.sweep session).2.InTurn marks := by
  rw [Service.sweep]
  split
  · exact h
  · next removed roster _ heq =>
    obtain ⟨rfl, rfl⟩ := Prod.mk.inj heq
    apply inTurn_pass ((hw.toBalanced.removeSession session).count _)
    show Roster.InLine marks (Schedule.roster (List.foldl _ _ _))
    rw [Schedule.roster_foldl_release]
    exact h.inLine.of_sublist List.filter_sublist rfl

/-! ### Runs -/

/-- In a run of these operations, the query gave up while it had the record: the arrival number
tells the record from other records of the key. -/
def Retreated (s₀ : Service) (ops : List Op) (key : QueryKey) (arrival : Nat) : Prop :=
  ∃ before after x, ops = before ++ .giveUp key :: after ∧
    (before.foldl apply s₀).find? key = some x ∧ x.arrival = arrival

variable {s₀ : Service} {ops : List Op}

lemma Run.eq_foldl (h : Run s₀ ops s) : s = ops.foldl apply s₀ := by
  induction h with
  | nil => rfl
  | snoc _ _ ih => rw [List.foldl_append, ← ih, List.foldl_cons, List.foldl_nil]

lemma Retreated.snoc {key : QueryKey} {arrival : Nat} (h : Retreated s₀ ops key arrival) (op : Op) :
    Retreated s₀ (ops ++ [op]) key arrival := by
  obtain ⟨before, after, x, rfl, hx⟩ := h
  exact ⟨before, after ++ [op], x, by simp, hx⟩

/-- An operation keeps the line, with the marks of the run that it belongs to. -/
lemma InTurn.apply (h : s.InTurn (Retreated s₀ ops)) (hrun : Run s₀ ops s) (hw : s.Sound) {op : Op}
    (hop : op.Admissible s) : (s.apply op).InTurn (Retreated s₀ (ops ++ [op])) := by
  have same {s' : Service} (hs : s'.InTurn (Retreated s₀ ops))
      (hsettled : s'.Sound) : s'.InTurn (Retreated s₀ (ops ++ [op])) := by
    have hsub (a : Record) (ha : a.Steadfast (Retreated s₀ (ops ++ [op]))) :
        a.Steadfast (Retreated s₀ ops) := ⟨ha.1, fun hk => ha.2 (hk.snoc op)⟩
    refine ⟨⟨hs.inLine.sorted, hs.inLine.numbered, ?_, ?_⟩,
      fun a ha hst => hs.full a ha (hsub a hst)⟩
    · intro x hx hst
      exact absurd hst (hsettled.settled x hx)
    · exact fun a ha hst => hs.inLine.behind a ha (hsub a hst)
  have hsound := hw.apply hop
  cases op with
  | register key affected transaction => exact same (h.register hw key affected transaction) hsound
  | complete key => exact same (h.complete hw key) hsound
  | pass => exact same (inTurn_pass hw.toBalanced h.inLine) hsound
  | poll key called => exact same (h.poll hw key called) hsound
  | markRunning key => exact same (h.markRunning hw hop) hsound
  | sweep session => exact same (h.sweep hw session) hsound
  | shutDown => exact same (h.congr rfl rfl) hsound
  | giveUp key =>
    refine h.giveUp hw (fun k n hk => hk.snoc _) fun x hx => ?_
    exact ⟨ops, [], x, rfl, by rwa [← hrun.eq_foldl], rfl⟩

lemma Run.inTurn (h₀ : s₀.Sound) (ht : s₀.InTurn (Retreated s₀ [])) (h : Run s₀ ops s) :
    s.InTurn (Retreated s₀ ops) := by
  induction h with
  | nil => exact ht
  | snoc h hop ih => exact ih.apply h (h.sound h₀) hop

/-- On a scheduler with settings in order, after any operations: while a query waits that has not
given up since it arrived, all slots are in use, and everybody who holds one arrived earlier. -/
theorem no_overtaking {settings : Settings} (hb : build settings = .ok s₀) (hrun : Run s₀ ops s)
    {a : Record} (ha : a ∈ s.records) (hw : a.status = .waiting)
    (hr : ¬Retreated s₀ ops a.key a.arrival) :
    s.running = settings.maxConcurrent.toNat ∧
      ∀ b ∈ s.records, b.status = .available ∨ b.status = .running → b.arrival < a.arrival := by
  obtain ⟨rfl, -⟩ := build_eq_ok hb
  have hempty : (ofSettings settings).InTurn (Retreated (ofSettings settings) []) :=
    ⟨.empty _ _ _, fun a ha => by cases ha⟩
  have h := hrun.inTurn (sound_ofSettings settings) hempty
  have hs : s.settings = settings := hrun.alike.1
  refine ⟨?_, fun b hb hst => h.inLine.behind a ha ⟨hw, hr⟩ b hb ?_⟩
  · rw [h.full a ha ⟨hw, hr⟩, slots, hs]
  · rw [Record.holdsSlot]
    rcases hst with hst | hst
    · rw [hst]
      rfl
    · rw [hst]
      rfl

/-- With one slot: the first query gives it up to the second one. The third one has not retreated,
and the one that runs came before it. -/
theorem no_overtaking_third :
    let settings : Settings := ⟨1, 4, 3, .ofNanos 30000⟩
    let ops : List Op :=
      [.register ⟨1, 1⟩ [1] 7, .register ⟨2, 1⟩ [1] 8, .giveUp ⟨1, 1⟩, .register ⟨3, 1⟩ [1] 9]
    let s := ops.foldl apply (ofSettings settings)
    let third : Record := ⟨⟨3, 1⟩, .waiting, [1], 9, 3⟩
    build settings = .ok (ofSettings settings) ∧ Run (ofSettings settings) ops s ∧
      third ∈ s.records ∧ ¬Retreated (ofSettings settings) ops third.key third.arrival ∧
      s.running = settings.maxConcurrent.toNat ∧
      ∀ b ∈ s.records, b.status = .available ∨ b.status = .running → b.arrival < third.arrival := by
  intro settings ops s third
  have hb : build settings = .ok (ofSettings settings) := rfl
  have h₁ : Run (ofSettings settings) (ops.take 1) _ := .snoc .nil trivial
  have h₂ : Run (ofSettings settings) (ops.take 2) _ := .snoc h₁ trivial
  have h₃ : Run (ofSettings settings) (ops.take 3) _ := .snoc h₂ trivial
  have hrun : Run (ofSettings settings) ops s := .snoc h₃ trivial
  have hthird : third ∈ s.records := by decide
  have hr : ¬Retreated (ofSettings settings) ops third.key third.arrival := by
    rintro ⟨before, after, _, heq, -⟩
    have hmem : Op.giveUp third.key ∈ ops := by
      rw [heq]
      exact List.mem_append_right before List.mem_cons_self
    revert hmem
    decide
  exact ⟨hb, hrun, hthird, hr, no_overtaking hb hrun hthird rfl hr⟩

end Service

end QueryAdmission
