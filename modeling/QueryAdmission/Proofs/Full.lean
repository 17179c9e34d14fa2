import QueryAdmission.Proofs.ArrivalOrder
import QueryAdmission.Proofs.Standing

/-!
# Who waits after a pass

A pass leaves a query waiting only if all slots are in use then, unless the query has just given its
slot up (`Balanced.fullFor_pass`). Every operation that may free a slot or add a query ends with a
pass, and an operation that runs none leaves the schedule as it is, but for a query that is marked
as running.
-/

namespace QueryAdmission

/-- If a record still waits when slots have been handed out, all of them were. -/
lemma fst_handOutSlots_of_waiting {free : Nat} {records : List Record} {r : Record}
    (hr : r ∈ (handOutSlots free records).2) (hw : r.status = .waiting) :
    (handOutSlots free records).1 = free := by
  fun_induction handOutSlots free records with
  | case1 => rfl
  | case2 => cases hr
  | case3 free x rs h n rs' heq ih =>
    rw [heq] at ih
    rcases List.mem_cons.1 hr with rfl | hr
    · cases hw
    · exact congrArg (· + 1) (ih hr)
  | case4 free x rs h n rs' heq ih =>
    rw [heq] at ih
    rcases List.mem_cons.1 hr with rfl | hr
    · exact absurd hw h
    · exact ih hr

namespace Service

variable {s s' : Service} {key k : QueryKey}

/-- If the query waits, all slots are in use. -/
def FullFor (s : Service) (k : QueryKey) : Prop :=
  s.status? k = some .waiting → s.running = s.slots

lemma Sound.status?_ne_gaveUp (h : s.Sound) (k : QueryKey) : s.status? k ≠ some .gaveUp := by
  intro hg
  obtain ⟨r, hr, -, hst⟩ := (Roster.status?_eq_some_iff h.keys_nodup).1 hg
  exact h.settled r hr hst

lemma Balanced.fullFor_pass (hb : s.Balanced) (hg : s.schedule.roster.status? k ≠ some .gaveUp) :
    s.pass.2.FullFor k := by
  intro hs
  obtain ⟨r, hr, hk, hw⟩ := (Roster.status?_eq_some_iff hb.pass.keys_nodup).1 hs
  obtain ⟨x, hx, rfl⟩ := List.mem_map.1 hr
  have hne : x.status ≠ .gaveUp := by
    intro hxg
    have hm : x ∈ s.records := (mem_handOutSlots hx).resolve_right (by rw [hxg]; nofun)
    rw [Schedule.key_waitAgain] at hk
    exact hg ((Roster.status?_eq_some_iff hb.keys_nodup).2 ⟨x, hm, hk, hxg⟩)
  rw [Record.waitAgain, if_neg hne] at hw
  have hall : (s.schedule.pass s.slots).1 = s.slots - s.running := fst_handOutSlots_of_waiting hx hw
  have hle := hb.running_le
  show s.running + (s.schedule.pass s.slots).1 = s.slots
  omega

/-! ### Operations that run a pass, and operations that change nothing -/

lemma Sound.fullFor_register (h : s.Sound) {affected : List ViewId} {transaction : TransactionId}
    {record : Record} (hr : s.register key affected transaction = (.ok record, s')) (k : QueryKey) :
    s'.FullFor k := by
  rw [Service.register] at hr
  split at hr
  · cases hr
  · split at hr
    · cases hr
    · next _ x roster heq =>
      obtain ⟨-, rfl⟩ := Prod.mk.inj hr
      rcases Roster.register_eq_ok heq with ⟨-, rfl⟩ | ⟨hf, hc, hx, rfl⟩
      · exact Balanced.fullFor_pass (h.toBalanced.congr rfl rfl) (h.status?_ne_gaveUp k)
      · have hb := h.toBalanced.arrive x (by rwa [hx]) hc (by rw [hx])
          (s.schedule.roster.arrivals + 1)
        refine Balanced.fullFor_pass (hb.congr rfl rfl) fun hg => ?_
        have hst := (s.schedule.roster.status?_append x _ k).symm.trans hg
        rcases Option.or_eq_some_iff.1 hst with hst | ⟨-, hst⟩
        · exact h.status?_ne_gaveUp k hst
        · rw [hx] at hst
          split_ifs at hst
          cases hst

/-- A registration that is refused changes nothing but the tally, and hands out no slot. -/
lemma schedule_register_error {affected : List ViewId} {transaction : TransactionId} {r : Refusal}
    (hr : s.register key affected transaction = (.error r, s')) :
    s'.schedule = s.schedule ∧ s'.tally.admitted = s.tally.admitted := by
  rw [register] at hr
  split at hr
  · cases hr
    exact ⟨rfl, rfl⟩
  · split at hr
    · cases hr
      exact ⟨rfl, rfl⟩
    · cases hr

lemma withdraw_of_none (hn : s.status? key = none) : s.withdraw key = (none, s) := by
  have hf : s.schedule.roster.find? key = none := Option.map_eq_none_iff.1 hn
  rw [withdraw, Roster.remove, hf]

lemma Sound.fullFor_withdraw (h : s.Sound) (hs : s.status? key ≠ none) (k : QueryKey) :
    (s.withdraw key).2.FullFor k := by
  rw [Service.withdraw]
  split
  · next hn =>
    have hf : s.schedule.roster.find? key = none := (Prod.mk.inj hn).1
    exact absurd (Option.map_eq_none_iff.2 hf) hs
  · next record roster heq =>
    obtain ⟨hf, rfl⟩ := Prod.mk.inj heq
    refine Balanced.fullFor_pass (h.toBalanced.remove hf) ?_
    rw [Schedule.roster_release]
    show Roster.status? (s.schedule.roster.remove key).2 k ≠ _
    rw [Roster.status?_remove]
    split_ifs
    · simp
    · exact h.status?_ne_gaveUp k

lemma complete_of_none (hn : s.status? key = none) : (s.complete key).2 = s := by
  rw [complete, withdraw_of_none hn]

lemma Sound.fullFor_complete (h : s.Sound) (hs : s.status? key ≠ none) (k : QueryKey) :
    (s.complete key).2.FullFor k := by
  have hw := h.fullFor_withdraw hs k
  rw [Service.complete]
  split
  · next heq => rwa [heq] at hw
  · next heq => rwa [heq] at hw

lemma depart_of_none (hn : s.status? key = none) (why : Departure) :
    (s.depart key why).schedule = s.schedule ∧
      (s.depart key why).tally.admitted = s.tally.admitted := by
  cases why <;> rw [depart, withdraw_of_none hn] <;> exact ⟨rfl, rfl⟩

lemma Sound.fullFor_depart (h : s.Sound) (hs : s.status? key ≠ none) (why : Departure)
    (k : QueryKey) : (s.depart key why).FullFor k := by
  cases why <;> exact h.fullFor_withdraw hs k

lemma Sound.look_or (h : s.Sound) (key : QueryKey) :
    (s.look key).2 = s ∨ ∀ k, (s.look key).2.FullFor k := by
  rw [Service.look]
  split
  · exact .inl rfl
  · next status _ =>
    by_cases hc : s.running = 0 ∧ status ≠ .available
    · rw [if_pos hc]
      exact .inr fun k => (h.toBalanced.count _).fullFor_pass (h.status?_ne_gaveUp k)
    · rw [if_neg hc]
      exact .inl rfl

lemma Sound.poll_or (h : s.Sound) (key : QueryKey) (called : Bool) :
    (s.poll key called).2.schedule = s.schedule ∨ ∀ k, (s.poll key called).2.FullFor k := by
  have hl := h.look_or key
  have hsound := h.look key
  rw [Service.poll]
  rcases hlook : s.look key with ⟨_ | _ | _, s'⟩
  all_goals rw [hlook] at hl hsound
  · exact hl.imp_left (congrArg schedule)
  · exact hl.imp_left (congrArg schedule)
  · have hd (why : Departure) : ∀ k, (s'.depart key why).FullFor k := by
      obtain ⟨status, hst, -⟩ := s.look_found key hlook (by simp)
      exact hsound.fullFor_depart (by simp [hst]) why
    dsimp only
    split_ifs
    · exact .inr (hd _)
    · exact .inr (hd _)
    · exact hl.imp_left (congrArg schedule)

lemma giveUp_of_none (hn : s.status? key = none) : s.giveUp key = s := by
  have hf : s.find? key = none := Option.map_eq_none_iff.1 hn
  rw [giveUp, hf]

/-- A query that gives up leaves nobody else waiting while a slot is free. -/
lemma Sound.fullFor_giveUp (h : s.Sound) (hs : s.status? key ≠ none) (hne : k ≠ key) :
    (s.giveUp key).FullFor k := by
  rw [Service.giveUp]
  split
  · next hf => exact absurd (Option.map_eq_none_iff.2 hf) hs
  · next record hf =>
    refine ((h.toBalanced.giveUp hf).count _).fullFor_pass ?_
    show Roster.status? (Schedule.roster (Schedule.setStatus _ _ _)) k ≠ _
    rw [Schedule.setStatus, Schedule.roster_release, Roster.status?_setStatus, if_neg hne]
    exact h.status?_ne_gaveUp k

lemma Sound.fullFor_sweep (h : s.Sound) {session : SessionId}
    (hs : ∃ k, k.session = session ∧ s.status? k ≠ none) (k : QueryKey) :
    (s.sweep session).2.FullFor k := by
  rw [Service.sweep]
  split
  · next heq =>
    have hnone : s.records.filter (·.session = session) = [] := (Prod.mk.inj heq).1
    obtain ⟨k', hk, hst⟩ := hs
    refine absurd (Roster.status?_eq_none.2 fun r hr he => ?_) hst
    have hsess : r.session = session := by rw [Record.session, he, hk]
    exact absurd hsess (by simpa using List.filter_eq_nil_iff.1 hnone r hr)
  · next removed roster _ heq =>
    obtain ⟨rfl, rfl⟩ := Prod.mk.inj heq
    refine ((h.toBalanced.removeSession session).count _).fullFor_pass ?_
    show Roster.status? (Schedule.roster (List.foldl _ _ _)) k ≠ _
    rw [Schedule.roster_foldl_release]
    show Roster.status? (s.schedule.roster.removeSession session).2 k ≠ _
    rw [Roster.status?_removeSession]
    split_ifs
    · simp
    · exact h.status?_ne_gaveUp k

lemma running_markRunning (s : Service) (key : QueryKey) :
    (s.markRunning key).2.running = s.running ∧
      (s.markRunning key).2.tally.admitted = s.tally.admitted := by
  rw [markRunning]
  split <;> exact ⟨rfl, rfl⟩

end Service

end QueryAdmission
