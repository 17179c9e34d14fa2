import QueryAdmission.Proofs.Prefix
import QueryAdmission.Proofs.Ranked

/-!
# Slots that come free

When a query is over or gives its slot up, or a session is swept, the slots that come free go to the
oldest of the other queries that wait. What is left then can be told without the pass
(`Service.handOn`): from who leaves, who stays, and who competes for the slots. A query that has
just given its slot up does not compete, even if it is the oldest and slots remain free.
-/

namespace QueryAdmission

/-! ### Records that are given a slot -/

/-- The records, when those of them that are listed are given a slot. -/
def grant (granted records : List Record) : List Record :=
  records.map fun r => if r ∈ granted then r.withStatus .available else r

section Grant

variable {granted records : List Record} {r : Record} {free : Nat}

lemma grant_nil (records : List Record) : grant [] records = records := by
  simp [grant]

/-- In the order of arrival, a record is known by its number. -/
lemma eq_of_arrival_eq (hs : records.Pairwise (·.arrival < ·.arrival)) {x : Record}
    (hr : r ∈ records) (hx : x ∈ records) (h : r.arrival = x.arrival) : r = x := by
  have hn : (records.map (·.arrival)).Nodup :=
    List.pairwise_map.2 (hs.imp fun hlt => Nat.ne_of_lt hlt)
  exact List.inj_on_of_nodup_map hn hr hx h

/-- The slots go to the first of those who wait. -/
lemma handOutSlots_eq_grant (hs : records.Pairwise (·.arrival < ·.arrival)) (free : Nat) :
    (handOutSlots free records).2
      = grant ((records.filter (·.status = .waiting)).take free) records := by
  fun_induction handOutSlots free records with
  | case1 => rw [List.take_zero, grant_nil]
  | case2 => rfl
  | case3 free r rs h n rs' heq ih =>
    obtain ⟨hr, hrs⟩ := List.pairwise_cons.1 hs
    have ih := ih hrs
    rw [heq] at ih
    -- Whoever is listed first is not mistaken for anyone who comes after.
    have hrest (x : Record) (hx : x ∈ rs) : x ≠ r := by
      rintro rfl
      exact Nat.lt_irrefl _ (hr x hx)
    rw [List.filter_cons_of_pos (by simpa using h), List.take_succ_cons, grant, List.map_cons,
      if_pos List.mem_cons_self]
    refine congrArg (_ :: ·) (ih.trans (List.map_congr_left fun x hx => ?_))
    simp only [List.mem_cons, hrest x hx, false_or]
  | case4 free r rs h n rs' heq ih =>
    have ih := ih (List.pairwise_cons.1 hs).2
    rw [heq] at ih
    have hr : r ∉ (rs.filter (·.status = .waiting)).take (free + 1) := fun hr =>
      h (by simpa using (List.mem_filter.1 (List.mem_of_mem_take hr)).2)
    rw [List.filter_cons_of_neg (by simpa using h), grant, List.map_cons, if_neg hr]
    exact congrArg (r :: ·) ih

/-- Whether records that gave their slot up wait again before slots are given or after, makes no
difference, if these go to others. -/
lemma map_waitAgain_grant (hs : records.Pairwise (·.arrival < ·.arrival))
    (hg : ∀ r ∈ granted, r ∈ records ∧ r.status = .waiting) :
    (grant granted records).map Record.waitAgain
      = grant granted (records.map Record.waitAgain) := by
  rw [grant, grant, List.map_map, List.map_map]
  refine List.map_congr_left fun r hr => ?_
  rw [Function.comp_apply, Function.comp_apply]
  by_cases h : r.status = .gaveUp
  · have hw : r.waitAgain = r.withStatus .waiting := by rw [Record.waitAgain, if_pos h]
    have hno : r ∉ granted := fun hm => by
      have hst := (hg r hm).2
      rw [h] at hst
      cases hst
    have hno' : r.withStatus .waiting ∉ granted := fun hm => by
      have heq := eq_of_arrival_eq hs (hg _ hm).1 hr rfl
      rw [← heq] at h
      cases h
    rw [if_neg hno, hw, if_neg hno']
  · have hw : r.waitAgain = r := Record.waitAgain_of_ne h
    rw [hw]
    split_ifs
    · exact Record.waitAgain_of_ne (by simp)
    · exact hw

end Grant

namespace Schedule

lemma release_eq (s : Schedule) (r : Record) :
    s.release r = ⟨s.running - r.status.slots, s.roster⟩ := by
  rw [← s.running_release r, ← s.roster_release r]

lemma foldl_release_eq (l : List Record) (s : Schedule) :
    l.foldl release s = ⟨s.running - l.countP Record.holdsSlot, s.roster⟩ := by
  rw [← running_foldl_release, ← roster_foldl_release l s]

end Schedule

namespace Service

/-- What comes of a scheduler when so many slots come free, these records are left, and those of
them that wait for a slot are `waiting`: the oldest are given slots until these are all in use or
nobody waits. -/
def handOn (s : Service) (freed : Nat) (left waiting : List Record) : Service :=
  let running := min s.slots (s.running - freed + waiting.length)
  let admitted := running - (s.running - freed)
  { s with
    schedule :=
      { running, roster := { s.schedule.roster with records := grant (waiting.take admitted) left } }
    tally := { s.tally with admitted := s.tally.admitted + admitted } }

variable {s : Service} {settings : Settings} {key : QueryKey} {r : Record} {session : SessionId}

/-- In the end all slots are in use, or nobody waits. -/
lemma handOn_full (s : Service) (freed : Nat) (left : List Record) :
    let s' := s.handOn freed left (left.filter (·.status = .waiting))
    s'.running = s.slots ∨ ∀ r ∈ s'.records, r.status ≠ .waiting := by
  intro s'
  set waiting := left.filter (·.status = .waiting) with hwaiting
  have hrun : s'.running = min s.slots (s.running - freed + waiting.length) := rfl
  have hrecords : s'.records = grant (waiting.take (s'.running - (s.running - freed))) left := rfl
  by_cases hle : s.slots ≤ s.running - freed + waiting.length
  · left
    rw [hrun, Nat.min_eq_left hle]
  · right
    have hall : waiting.take (s'.running - (s.running - freed)) = waiting :=
      List.take_of_length_le (by omega)
    rw [hrecords, hall]
    intro r hr hw
    obtain ⟨x, hx, rfl⟩ := List.mem_map.1 hr
    split at hw
    · cases hw
    · next hno => exact hno (List.mem_filter.2 ⟨hx, by simpa using hw⟩)

/-- A pass after slots came free. -/
lemma snd_pass_of_freed (hle : s.running ≤ s.slots) (freed : Nat) (records : List Record)
    (h : Roster.Ranked { s.schedule.roster with records }) :
    (pass { s with schedule := ⟨s.running - freed, { s.schedule.roster with records }⟩ }).2
      = s.handOn freed (records.map Record.waitAgain)
          (records.filter (·.status = .waiting)) := by
  have hsorted : records.Pairwise (·.arrival < ·.arrival) := h.sorted
  set waiting := records.filter (·.status = .waiting) with hwaiting
  set free := s.slots - (s.running - freed) with hfree
  set running := min s.slots (s.running - freed + waiting.length) with hrunning
  -- As many slots are handed out as bring those in use to `running`.
  have hn : (handOutSlots free records).1 = running - (s.running - freed) := by
    rw [fst_handOutSlots, waiters, List.countP_eq_length_filter, ← hwaiting]
    omega
  have hrun : s.running - freed + (handOutSlots free records).1 = running := by
    omega
  have htake : waiting.take free = waiting.take (running - (s.running - freed)) := by
    rw [List.take_eq_take_iff]
    omega
  -- Whoever gave up is let wait again only when the slots are given, and so does not compete.
  have hrecords : (handOutSlots free records).2.map Record.waitAgain
      = grant (waiting.take (running - (s.running - freed))) (records.map Record.waitAgain) := by
    rw [handOutSlots_eq_grant hsorted, ← hwaiting, htake]
    refine map_waitAgain_grant hsorted fun r hr => ?_
    simpa [hwaiting] using List.mem_of_mem_take hr
  show ({ s with
      schedule := ⟨s.running - freed + (handOutSlots free records).1,
        { s.schedule.roster with records := (handOutSlots free records).2.map Record.waitAgain }⟩
      tally := { s.tally with admitted := s.tally.admitted + (handOutSlots free records).1 } }
        : Service) = _
  rw [hrun, hrecords, hn]
  rfl

/-- A record that leaves. -/
lemma Ranked.withdraw_eq (h : s.Ranked) (hf : s.find? key = some r) :
    let others := s.records.filter (·.key ≠ key)
    s.withdraw key
      = (some r, s.handOn r.status.slots others (others.filter (·.status = .waiting))) := by
  intro others
  have hsettled : ∀ x ∈ others, x.status ≠ .gaveUp := fun x hx =>
    h.settled x (List.mem_of_mem_filter hx)
  have hpass := snd_pass_of_freed h.running_le r.status.slots others (h.roster.filter _)
  rw [map_waitAgain hsettled] at hpass
  rw [Service.withdraw]
  split
  · next hn =>
    rw [show s.find? key = none from (Prod.mk.inj hn).1] at hf
    cases hf
  · next record roster heq =>
    obtain ⟨hk, rfl⟩ := Prod.mk.inj heq
    rw [show s.find? key = some record from hk] at hf
    cases hf
    rw [Schedule.release_eq]
    exact congrArg (some _, ·) hpass

/-- Statuses when the record of a key is given another one: the others' alone count. -/
lemma filter_setStatus (r : Roster) (key : QueryKey) {status : Status} (hs : status ≠ .waiting) :
    (r.setStatus key status).records.filter (·.status = .waiting)
      = (r.records.filter (·.key ≠ key)).filter (·.status = .waiting) := by
  rw [Roster.setStatus, Roster.records_map]
  induction r.records with
  | nil => rfl
  | cons x l ih =>
    rw [List.map_cons]
    by_cases hk : x.key = key
    · rw [if_pos hk, List.filter_cons_of_neg (by simp [hs]), ih,
        List.filter_cons_of_neg (by simpa using hk)]
    · rw [if_neg hk, List.filter_cons, ih, List.filter_cons_of_pos (by simpa using hk),
        List.filter_cons]

/-- A query that gives its slot up waits, and does not compete. -/
lemma Ranked.giveUp_eq (h : s.Ranked) (hf : s.find? key = some r) :
    let others := s.records.filter (·.key ≠ key)
    s.giveUp key
      = (s.handOn r.status.slots (s.schedule.roster.setStatus key .waiting).records
          (others.filter (·.status = .waiting))).count
        fun t => { t with retreats := t.retreats + 1 } := by
  intro others
  have hagain : (s.schedule.roster.setStatus key .gaveUp).records.map Record.waitAgain
      = (s.schedule.roster.setStatus key .waiting).records := by
    rw [Roster.setStatus, Roster.setStatus, Roster.records_map, Roster.records_map, List.map_map]
    refine List.map_congr_left fun x hx => ?_
    rw [Function.comp_apply]
    split_ifs
    · rfl
    · exact Record.waitAgain_of_ne (h.settled x hx)
  have hpass := snd_pass_of_freed h.running_le r.status.slots
    (s.schedule.roster.setStatus key .gaveUp).records (h.roster.setStatus key .gaveUp)
  rw [hagain, filter_setStatus _ key (by simp)] at hpass
  rw [Service.giveUp, hf]
  dsimp only
  rw [Schedule.release_eq]
  exact congrArg (count · fun t => { t with retreats := t.retreats + 1 }) hpass

/-- The records of a session leave. -/
lemma Ranked.sweep_eq (h : s.Ranked) (hlive : ∃ r ∈ s.records, r.session = session) :
    let gone := s.records.filter (·.session = session)
    let others := s.records.filter (·.session ≠ session)
    s.sweep session
      = (gone.length,
          (s.handOn (gone.countP Record.holdsSlot) others
            (others.filter (·.status = .waiting))).count
          fun t => { t with swept := t.swept + gone.length }) := by
  intro gone others
  have hsettled : ∀ x ∈ others, x.status ≠ .gaveUp := fun x hx =>
    h.settled x (List.mem_of_mem_filter hx)
  have hpass := snd_pass_of_freed h.running_le (gone.countP Record.holdsSlot) others
    (h.roster.filter _)
  rw [map_waitAgain hsettled] at hpass
  rw [Service.sweep]
  split
  · next heq =>
    obtain ⟨r, hr, hrs⟩ := hlive
    have hnone : s.records.filter (·.session = session) = [] := (Prod.mk.inj heq).1
    exact absurd hrs (by simpa using List.filter_eq_nil_iff.1 hnone r hr)
  · next removed roster _ heq =>
    obtain ⟨rfl, rfl⟩ := Prod.mk.inj heq
    rw [Schedule.foldl_release_eq]
    exact congrArg (fun x => (gone.length, count x fun t => { t with swept := t.swept + gone.length }))
      hpass

lemma Ranked.complete_eq (h : s.Ranked) (hf : s.find? key = some r) :
    let others := s.records.filter (·.key ≠ key)
    s.complete key
      = (some r, (s.handOn r.status.slots others (others.filter (·.status = .waiting))).count
          fun t => { t with completed := t.completed + 1 }) := by
  rw [Service.complete, h.withdraw_eq hf]

/-- A query that has given its slot up is where it was, and waits. -/
lemma Ranked.find?_giveUp (h : s.Ranked) (hf : s.find? key = some r) :
    (s.giveUp key).find? key = some (r.withStatus .waiting) := by
  have hnodup := (h.giveUp key).roster.keys_nodup
  obtain ⟨hr, rfl⟩ := (Roster.find?_eq_some_iff h.roster.keys_nodup).1 hf
  refine (Roster.find?_eq_some_iff hnodup).2 ⟨?_, rfl⟩
  rw [h.giveUp_eq hf]
  refine List.mem_map.2 ⟨r.withStatus .waiting, List.mem_map.2 ⟨r, hr, if_pos rfl⟩, if_neg ?_⟩
  intro hm
  have hother := List.mem_of_mem_filter (List.mem_of_mem_take hm)
  simp at hother

lemma Reached.settings_eq (h : Reached settings s) : s.settings = settings := by
  induction h with
  | built hb => rw [(build_eq_ok hb).1]; rfl
  | opened _ ih => exact ih
  | applied _ op ih => exact (alike_apply _ op).1.trans ih
  | looked _ key ih => exact (alike_look _ key).1.trans ih
  | departed _ key why ih => exact (alike_depart _ key why).1.trans ih

/-- Whatever was done with a scheduler with settings in order, when a query that has a record is
over, or gives its slot up, or a session that has records is swept: the slots that come free go to
the other queries that wait, the oldest first, as far as there are slots and such queries
(`handOn`). A query that gave its slot up waits in its old place, without a slot. No more slots come
free than are in use, if the account of slots is right. -/
theorem freed_slots (h : Reached settings s) :
    s.slots = settings.maxConcurrent.toNat ∧ s.records.Pairwise (·.arrival < ·.arrival) ∧
      (s.running = s.schedule.slotsInUse →
        ∀ l : List Record, l.Sublist s.records → l.countP Record.holdsSlot ≤ s.running) ∧
      (∀ key r, s.find? key = some r →
        let others := s.records.filter (·.key ≠ key)
        let waiting := others.filter (·.status = .waiting)
        (s.complete key).2 = (s.handOn r.status.slots others waiting).count
            (fun t => { t with completed := t.completed + 1 }) ∧
          s.giveUp key
            = (s.handOn r.status.slots (s.schedule.roster.setStatus key .waiting).records
                waiting).count (fun t => { t with retreats := t.retreats + 1 }) ∧
          (s.giveUp key).find? key = some (r.withStatus .waiting)) ∧
      ∀ session, (∃ r ∈ s.records, r.session = session) →
        let gone := s.records.filter (·.session = session)
        let others := s.records.filter (·.session ≠ session)
        (s.sweep session).2
          = (s.handOn (gone.countP Record.holdsSlot) others
              (others.filter (·.status = .waiting))).count
            fun t => { t with swept := t.swept + gone.length } := by
  have hr := h.ranked
  refine ⟨?_, hr.roster.sorted, fun heq l hl => ?_, fun key r hf => ?_, fun session hlive => ?_⟩
  · rw [slots, h.settings_eq]
  · rw [heq]
    exact hl.countP_le
  · refine ⟨?_, hr.giveUp_eq hf, hr.find?_giveUp hf⟩
    rw [hr.complete_eq hf]
  · rw [hr.sweep_eq hlive]

/-- With one slot, which the first of three queries has given up to the second one. When this one
is over, or its session is swept, the first one is given the slot. The same happens when it gives
the slot up as well, and then it waits before the third one, although it does not compete. -/
theorem freed_slots_retreat :
    let settings : Settings := ⟨1, 4, 4, .ofNanos 30000⟩
    let ops : List Op :=
      [.register ⟨1, 1⟩ [1] 7, .register ⟨2, 1⟩ [1] 8, .register ⟨3, 1⟩ [1] 9, .giveUp ⟨1, 1⟩]
    let s := ops.foldl apply (ofSettings settings)
    let record (number : Nat) (status : Status) : Record :=
      ⟨⟨⟨number⟩, 1⟩, status, [1], ⟨number + 6⟩, number⟩
    let waiting := [record 1 .waiting, record 3 .waiting]
    Reached settings s ∧ s.find? ⟨2, 1⟩ = some (record 2 .available) ∧
      (s.complete ⟨2, 1⟩).2 = (s.handOn 1 waiting waiting).count
        (fun t => { t with completed := t.completed + 1 }) ∧
      (s.sweep 2).2
        = (s.handOn 1 waiting waiting).count (fun t => { t with swept := t.swept + 1 }) ∧
      (s.handOn 1 waiting waiting).records = [record 1 .available, record 3 .waiting] ∧
      (s.giveUp ⟨2, 1⟩).find? ⟨2, 1⟩ = some (record 2 .waiting) ∧
      (s.giveUp ⟨2, 1⟩).records = [record 1 .available, record 2 .waiting, record 3 .waiting] := by
  intro settings ops s record waiting
  have hs : Reached settings s := (Reached.built rfl).foldl ops
  have hf : s.find? ⟨2, 1⟩ = some (record 2 .available) := by decide
  have hothers : s.records.filter (·.key ≠ ⟨2, 1⟩) = waiting := by decide
  have hgone : s.records.filter (·.session = 2) = [record 2 .available] := by decide
  have hrest : s.records.filter (·.session ≠ 2) = waiting := by decide
  have hwaiting : waiting.filter (·.status = .waiting) = waiting := by decide
  obtain ⟨-, -, -, hkeys, hsessions⟩ := freed_slots hs
  obtain ⟨hcomplete, -, hfind⟩ := hkeys _ _ hf
  have hsweep := hsessions 2 (by decide)
  have hslots : (record 2 .available).status.slots = 1 := rfl
  have hcount : [record 2 .available].countP Record.holdsSlot = 1 := rfl
  dsimp only at hsweep
  rw [hothers, hwaiting, hslots] at hcomplete
  rw [hgone, hrest, hwaiting, hcount] at hsweep
  exact ⟨hs, hf, hcomplete, hsweep, by decide, hfind, by decide⟩

end Service

end QueryAdmission
