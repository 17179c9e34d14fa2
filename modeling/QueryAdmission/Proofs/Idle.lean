import QueryAdmission.Proofs.Full
import QueryAdmission.Proofs.Grants

/-!
# No slot in use

While no slot is in use, nobody holds one, and so all queries wait. There cannot be two of them
(`Run.lone`): an operation leaves nobody waiting while a slot is free but a query that has given up
in this very operation.
-/

namespace QueryAdmission

namespace Service

variable {s s₀ : Service} {settings : Settings} {ops : List Op} {r : Record}

lemma Run.pos_slots (hb : build settings = .ok s₀) (hrun : Run s₀ ops s) : 0 < s.slots := by
  obtain ⟨rfl, hc⟩ := build_eq_ok hb
  rw [slots, show s.settings = settings from hrun.alike.1, Nat.pos_iff_ne_zero]
  intro h
  exact (Settings.check_eq_ok.1 hc).1 (UInt64.toNat_inj.1 h)

lemma Sound.exists_holdsSlot (h : s.Sound) (hpos : 0 < s.running) :
    ∃ x ∈ s.records, x.holdsSlot := by
  rw [h.running_eq] at hpos
  exact List.countP_pos_iff.1 hpos

lemma Balanced.status_of_idle (h : s.Balanced) (h0 : s.running = 0) (hr : r ∈ s.records) :
    r.status = .waiting ∨ r.status = .gaveUp := by
  have hcount : s.records.countP Record.holdsSlot = 0 := h.running_eq.symm.trans h0
  have hh := List.countP_eq_zero.1 hcount r hr
  rw [Record.holdsSlot] at hh
  cases hs : r.status with
  | waiting => exact .inl rfl
  | gaveUp => exact .inr rfl
  | available | running => simp [hs] at hh

/-- While no slot is in use, all queries wait. -/
lemma Sound.waiting_of_idle (h : s.Sound) (h0 : s.running = 0) (hr : r ∈ s.records) :
    r.status = .waiting :=
  (h.status_of_idle h0 hr).resolve_right (h.settled r hr)

/-- While no slot is in use there is one query at most. -/
def Lone (s : Service) : Prop := s.running = 0 → ∀ x ∈ s.records, ∀ y ∈ s.records, x.key = y.key

/-- If all slots are in use while anybody waits but that one, then nobody else waits while none
is. -/
lemma lone_of_full (h : s.Sound) (hslots : 0 < s.slots)
    (hfull : ∃ key, ∀ k, k ≠ key → s.FullFor k) : s.Lone := by
  obtain ⟨key, hfull⟩ := hfull
  intro h0
  have own (x : Record) (hx : x ∈ s.records) : x.key = key := by
    by_contra hne
    have hst : s.status? x.key = some .waiting :=
      (Roster.status?_eq_some_iff h.keys_nodup).2 ⟨x, hx, rfl, h.waiting_of_idle h0 hx⟩
    have heq := hfull x.key hne hst
    omega
  intro x hx y hy
  rw [own x hx, own y hy]

lemma Lone.congr {s' : Service} (hl : s.Lone) (hs : s'.schedule = s.schedule) : s'.Lone := by
  intro h0
  rw [running, hs] at h0
  rw [records, hs]
  exact hl h0

lemma Lone.markRunning (hl : s.Lone) (key : QueryKey) : (s.markRunning key).2.Lone := by
  rw [Service.markRunning]
  split
  · exact hl
  · intro h0 x hx y hy
    obtain ⟨x', hx', rfl⟩ := List.mem_map.1 hx
    obtain ⟨y', hy', rfl⟩ := List.mem_map.1 hy
    have hk := hl h0 x' hx' y' hy'
    split_ifs <;> exact hk

lemma Lone.apply (hl : s.Lone) (h : s.Sound) (hslots : 0 < s.slots) {op : Op}
    (hop : op.Admissible s) : (s.apply op).Lone := by
  have hsound := h.apply hop
  have hslots' : 0 < (s.apply op).slots := by rwa [slots, (s.alike_apply op).1]
  have passed (hfull : ∀ k, (s.apply op).FullFor k) : (s.apply op).Lone :=
    lone_of_full hsound hslots' ⟨⟨0, 0⟩, fun k _ => hfull k⟩
  cases op with
  | register key affected transaction =>
    rcases hr : s.register key affected transaction with ⟨r | record, s'⟩
    · refine hl.congr ?_
      rw [Service.apply, hr]
      exact (schedule_register_error hr).1
    · refine passed fun k => ?_
      rw [Service.apply, hr]
      exact h.fullFor_register hr k
  | complete key =>
    by_cases hn : s.status? key = none
    · exact hl.congr (congrArg schedule (complete_of_none hn))
    · exact passed (h.fullFor_complete hn)
  | pass => exact passed fun k => h.toBalanced.fullFor_pass (h.status?_ne_gaveUp k)
  | poll key called =>
    rcases h.poll_or key called with hs | hfull
    · exact hl.congr hs
    · exact passed hfull
  | giveUp key =>
    by_cases hn : s.status? key = none
    · exact hl.congr (congrArg schedule (giveUp_of_none hn))
    · exact lone_of_full hsound hslots' ⟨key, fun k => h.fullFor_giveUp hn⟩
  | markRunning key => exact hl.markRunning key
  | sweep session =>
    by_cases hn : ∃ k, k.session = session ∧ s.status? k ≠ none
    · exact passed (h.fullFor_sweep hn)
    · refine hl.congr (congrArg schedule (s.sweep_of_none fun k hk => ?_))
      by_contra hne
      exact hn ⟨k, hk, hne⟩
  | shutDown => exact hl.congr rfl

lemma Run.lone (hb : build settings = .ok s₀) (hrun : Run s₀ ops s) : s.Lone := by
  induction hrun with
  | nil =>
    obtain ⟨rfl, -⟩ := build_eq_ok hb
    intro _ x hx
    cases hx
  | snoc hrun hop ih =>
    have hslots := hrun.pos_slots hb
    obtain ⟨rfl, -⟩ := build_eq_ok hb
    exact ih.apply (hrun.sound (sound_ofSettings settings)) hslots hop

/-- A query that waits while no slot is in use is the oldest one that waits. -/
lemma Lone.waitersBefore_eq_zero (hl : s.Lone) (h : s.Sound) (h0 : s.running = 0)
    (hr : r ∈ s.records) : waitersBefore s.records r = 0 := by
  rw [waitersBefore, List.countP_eq_zero]
  intro x hx
  rw [List.inj_on_of_nodup_map h.keys_nodup hx hr (hl h0 x hx r hr)]
  simp

end Service

end QueryAdmission
