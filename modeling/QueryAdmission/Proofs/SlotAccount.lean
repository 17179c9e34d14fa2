import QueryAdmission.Proofs.Operation

/-!
# The account of slots

The number of slots in use is kept beside the roster, and every operation changes the two
separately. Between operations they agree (`Sound`): as many slots are in use as records hold one,
there are no more than the settings allow, and nobody has just given a slot up. An operation first
changes the roster, which keeps the account balanced, and then runs a pass, which makes it sound.
-/

namespace QueryAdmission

/-- How many slots a query of that status occupies. -/
def Status.slots (s : Status) : Nat := if s.holdsSlot then 1 else 0

/-! ### The slots that records hold -/

namespace Roster

variable {r : Roster} {key : QueryKey} {record : Record}

/-- With every key there once, the records of a key are its record. -/
lemma filter_key_eq (h : (r.records.map (·.key)).Nodup) (hf : r.find? key = some record) :
    r.records.filter (·.key = key) = [record] := by
  obtain ⟨hm, rfl⟩ := (find?_eq_some_iff h).1 hf
  have hn : (r.records.filter (·.key = record.key)).Nodup := (h.of_map _).filter _
  rw [← List.perm_singleton, List.perm_ext_iff_of_nodup hn (List.nodup_singleton _)]
  intro x
  rw [List.mem_filter, List.mem_singleton, decide_eq_true_iff]
  constructor
  · rintro ⟨hx, hk⟩
    exact List.inj_on_of_nodup_map h hx hm hk
  · rintro rfl
    exact ⟨hm, rfl⟩

/-- Counting records: those of a key, and the others. -/
lemma countP_eq_add (h : (r.records.map (·.key)).Nodup) (hf : r.find? key = some record)
    (p : Record → Bool) :
    r.records.countP p
      = (if p record then 1 else 0) + (r.records.filter (·.key ≠ key)).countP p := by
  have hs := List.countP_eq_countP_filter_add r.records p (fun x => decide (x.key = key))
  rw [filter_key_eq h hf, List.countP_singleton] at hs
  simpa only [ne_eq, decide_not] using hs

/-- A key has one record. -/
lemma length_filter_key (h : (r.records.map (·.key)).Nodup) (hf : r.find? key = some record) :
    (r.records.filter (·.key ≠ key)).length + 1 = r.records.length := by
  have hc := countP_eq_add h hf fun _ => true
  rw [List.countP_true, if_pos rfl, Nat.add_comm] at hc
  exact hc.symm

lemma slotHolders_remove (h : (r.records.map (·.key)).Nodup) (hf : r.find? key = some record) :
    (r.remove key).2.slotHolders + record.status.slots = r.slotHolders := by
  have hs := countP_eq_add h hf Record.holdsSlot
  rw [slotHolders, slotHolders, records_remove, hs, Nat.add_comm]
  rfl

lemma slotHolders_setStatus (h : (r.records.map (·.key)).Nodup) (hf : r.find? key = some record)
    (s : Status) :
    (r.setStatus key s).slotHolders + record.status.slots = r.slotHolders + s.slots := by
  have hk := find?_eq_some_key hf
  have hs := countP_eq_add h hf Record.holdsSlot
  have hs' := countP_eq_add h hf
    (Record.holdsSlot ∘ fun x => if x.key = key then x.withStatus s else x)
  have ho : (r.records.filter (·.key ≠ key)).countP
        (Record.holdsSlot ∘ fun x => if x.key = key then x.withStatus s else x)
      = (r.records.filter (·.key ≠ key)).countP Record.holdsSlot := by
    apply List.countP_congr
    intro x hx
    have hx : x.key ≠ key := by simpa using (List.mem_filter.1 hx).2
    simp [hx]
  rw [ho] at hs'
  have hm : (r.setStatus key s).slotHolders = r.records.countP
      (Record.holdsSlot ∘ fun x => if x.key = key then x.withStatus s else x) := by
    rw [slotHolders, setStatus, records_map, List.countP_map]
  rw [hm, hs', slotHolders, hs]
  simp only [Function.comp_apply, hk, if_true, Record.holdsSlot_withStatus, Status.slots]
  have : record.holdsSlot = record.status.holdsSlot := rfl
  rw [this]
  omega

lemma slotHolders_removeSession (r : Roster) (s : SessionId) :
    (r.removeSession s).2.slotHolders + (r.removeSession s).1.countP Record.holdsSlot
      = r.slotHolders := by
  have hs := List.countP_eq_countP_filter_add r.records Record.holdsSlot
    (fun x => decide (x.session = s))
  rw [slotHolders, slotHolders, hs, Nat.add_comm]
  simp [removeSession]

end Roster

namespace Schedule

lemma running_release (s : Schedule) (r : Record) :
    (s.release r).running = s.running - r.status.slots := by
  rw [release, Status.slots, Record.holdsSlot]
  split <;> rfl

lemma running_foldl_release (l : List Record) (s : Schedule) :
    (l.foldl release s).running = s.running - l.countP Record.holdsSlot := by
  induction l generalizing s with
  | nil => rfl
  | cons r l ih =>
    rw [List.foldl_cons, ih, running_release, List.countP_cons, Nat.sub_sub, Nat.add_comm]
    rfl

/-- A way to free slots that does what `release` does wherever a slot is in use. It may do anything
with a record that holds a slot while none is in use. -/
def FreesInUse (free : Schedule → Record → Schedule) : Prop :=
  ∀ (s : Schedule) (r : Record), (r.holdsSlot → 0 < s.running) → free s r = s.release r

lemma FreesInUse.foldl_eq {free : Schedule → Record → Schedule} (hf : FreesInUse free)
    (l : List Record) (s : Schedule) (h : l.countP Record.holdsSlot ≤ s.running) :
    l.foldl free s = l.foldl release s := by
  induction l generalizing s with
  | nil => rfl
  | cons r l ih =>
    rw [List.countP_cons] at h
    have hr : free s r = s.release r := hf s r fun hr => by rw [if_pos hr] at h; omega
    rw [List.foldl_cons, List.foldl_cons, hr]
    apply ih
    rw [running_release]
    have : r.status.slots = if r.holdsSlot then 1 else 0 := rfl
    omega

end Schedule

namespace Service

/-! ### Balanced and sound schedulers -/

/-- A scheduler whose account of slots is right. -/
structure Balanced (s : Service) : Prop where
  running_eq : s.running = s.schedule.slotsInUse
  running_le : s.running ≤ s.slots
  keys_nodup : (s.records.map (·.key)).Nodup
  capacity_eq : s.schedule.roster.capacity = s.settings.maxQueries.toNat
  size_le : s.records.length ≤ s.settings.maxQueries.toNat

/-- A scheduler between two operations. -/
structure Sound (s : Service) : Prop extends Balanced s where
  settled : ∀ r ∈ s.records, r.status ≠ .gaveUp

variable {s : Service}

/-- The account depends on nothing but the settings and the schedule. -/
lemma Balanced.congr (h : s.Balanced) {s' : Service} (hs : s'.settings = s.settings)
    (hr : s'.schedule = s.schedule) : s'.Balanced := by
  obtain ⟨settings, schedule, _, _, _⟩ := s
  obtain ⟨_, _, _, _, _⟩ := s'
  obtain rfl : _ = settings := hs
  obtain rfl : _ = schedule := hr
  exact ⟨h.running_eq, h.running_le, h.keys_nodup, h.capacity_eq, h.size_le⟩

lemma Sound.congr (h : s.Sound) {s' : Service} (hs : s'.settings = s.settings)
    (hr : s'.schedule = s.schedule) : s'.Sound :=
  ⟨h.toBalanced.congr hs hr, fun r hm => h.settled r (by rwa [records, hr] at hm)⟩

lemma Balanced.count (h : s.Balanced) (f : Tally → Tally) : (s.count f).Balanced := h.congr rfl rfl

/-- A pass hands out no more slots than are free, and lets nobody stay who has given up. -/
lemma Balanced.pass (h : s.Balanced) : s.pass.2.Sound where
  running_eq := by
    have hpass := s.schedule.slotsInUse_pass s.slots
    have heq := h.running_eq
    show s.running + (s.schedule.pass s.slots).1 = (s.schedule.pass s.slots).2.slotsInUse
    omega
  running_le := by
    have hpass := s.schedule.fst_pass_le s.slots
    have hle := h.running_le
    show s.schedule.running + (s.schedule.pass s.slots).1 ≤ s.slots
    rw [running] at hle
    omega
  keys_nodup := by
    show ((s.schedule.pass s.slots).2.roster.records.map (·.key)).Nodup
    rw [Schedule.map_key_pass]
    exact h.keys_nodup
  capacity_eq := h.capacity_eq
  size_le := by
    have hsize : (s.schedule.pass s.slots).2.roster.size = _ := s.schedule.size_pass s.slots
    show (s.schedule.pass s.slots).2.roster.size ≤ _
    rw [hsize]
    exact h.size_le
  settled := s.schedule.status_ne_gaveUp_pass s.slots

lemma Sound.pass (h : s.Sound) : s.pass.2.Sound := h.toBalanced.pass

/-! ### Taking records off the roster -/

/-- Records that leave give their slots back: the account stays balanced, if the number of slots
in use goes down by what they held. -/
lemma Balanced.of_sublist (h : s.Balanced) {s' : Service} (hs : s'.settings = s.settings)
    (hc : s'.schedule.roster.capacity = s.schedule.roster.capacity)
    (hl : s'.records.Sublist s.records) {n : Nat} (hr : s'.running = s.running - n)
    (hn : s'.schedule.slotsInUse + n = s.schedule.slotsInUse) : s'.Balanced where
  running_eq := by
    have heq := h.running_eq
    omega
  running_le := by
    have hle := h.running_le
    rw [slots, hs]
    show _ ≤ s.slots
    omega
  keys_nodup := h.keys_nodup.sublist (hl.map _)
  capacity_eq := by rw [hc, hs]; exact h.capacity_eq
  size_le := by rw [hs]; exact Nat.le_trans hl.length_le h.size_le

lemma Balanced.remove (h : s.Balanced) {key : QueryKey} {record : Record}
    (hf : s.find? key = some record) :
    Balanced { s with schedule :=
                 { s.schedule with roster := (s.schedule.roster.remove key).2 }.release record } := by
  refine h.of_sublist rfl ?_ ?_ (Schedule.running_release _ _) ?_
  · rw [Schedule.roster_release]
    rfl
  · rw [records, Schedule.roster_release]
    exact List.filter_sublist
  · rw [Schedule.slotsInUse, Schedule.roster_release]
    exact Roster.slotHolders_remove h.keys_nodup hf

lemma Balanced.removeSession (h : s.Balanced) (session : SessionId) :
    let schedule := { s.schedule with roster := (s.schedule.roster.removeSession session).2 }
    Balanced { s with schedule :=
                 (s.schedule.roster.removeSession session).1.foldl Schedule.release schedule } := by
  refine h.of_sublist rfl ?_ ?_ (Schedule.running_foldl_release _ _) ?_
  · rw [Schedule.roster_foldl_release]
    rfl
  · rw [records, Schedule.roster_foldl_release]
    exact List.filter_sublist
  · rw [Schedule.slotsInUse, Schedule.roster_foldl_release]
    exact Roster.slotHolders_removeSession _ session

/-! ### Arrivals and retreats -/

/-- A query that arrives holds no slot, and there is a place for it. -/
lemma Balanced.arrive (h : s.Balanced) (record : Record) (hf : s.find? record.key = none)
    (hc : s.schedule.roster.size < s.schedule.roster.capacity) (hw : record.status = .waiting)
    (arrivals : Nat) :
    Balanced { s with schedule := { s.schedule with roster :=
                 { s.schedule.roster with records := s.records ++ [record], arrivals } } } where
  running_eq := by
    show s.running = (s.records ++ [record]).countP Record.holdsSlot
    have hr : record.holdsSlot = false := by rw [Record.holdsSlot, hw]; rfl
    rw [List.countP_append, List.countP_singleton, hr]
    exact h.running_eq
  running_le := h.running_le
  keys_nodup := Roster.nodup_map_key_append h.keys_nodup hf
  capacity_eq := h.capacity_eq
  size_le := by
    show (s.records ++ [record]).length ≤ s.settings.maxQueries.toNat
    rw [List.length_append, ← h.capacity_eq]
    exact hc

/-- A query that gives up holds no slot any more, if it held one. -/
lemma Balanced.giveUp (h : s.Balanced) {key : QueryKey} {record : Record}
    (hf : s.find? key = some record) :
    Balanced { s with schedule := (s.schedule.release record).setStatus key .gaveUp } where
  running_eq := by
    have hs := Roster.slotHolders_setStatus h.keys_nodup hf .gaveUp
    have hr := h.running_eq
    have hg : Status.gaveUp.slots = 0 := rfl
    show (s.schedule.release record).running
      = ((s.schedule.release record).roster.setStatus key .gaveUp).slotHolders
    rw [Schedule.running_release, Schedule.roster_release]
    rw [running, Schedule.slotsInUse] at hr
    omega
  running_le := by
    refine Nat.le_trans ?_ h.running_le
    show (s.schedule.release record).running ≤ _
    rw [Schedule.running_release]
    exact Nat.sub_le _ _
  keys_nodup := by
    show (((s.schedule.release record).roster.setStatus key .gaveUp).records.map (·.key)).Nodup
    rw [Schedule.roster_release, Roster.map_key_setStatus]
    exact h.keys_nodup
  capacity_eq := by
    show ((s.schedule.release record).roster.setStatus key .gaveUp).capacity = _
    rw [Schedule.roster_release]
    exact h.capacity_eq
  size_le := by
    show ((s.schedule.release record).roster.setStatus key .gaveUp).size ≤ _
    rw [Schedule.roster_release, Roster.size_setStatus]
    exact h.size_le

/-! ### Sound after every operation -/

lemma Sound.register (h : s.Sound) (key : QueryKey) (affected : List ViewId)
    (transaction : TransactionId) : (s.register key affected transaction).2.Sound := by
  rw [Service.register]
  split
  · exact h
  · split
    · exact h.congr rfl rfl
    · next record roster heq =>
      refine Balanced.pass ?_
      rcases Roster.register_eq_ok heq with ⟨-, rfl⟩ | ⟨hf, hc, hr, rfl⟩
      · exact h.toBalanced.congr rfl rfl
      · exact (h.toBalanced.arrive record (by rwa [hr]) hc (by rw [hr]) _).congr rfl rfl

lemma Sound.withdraw (h : s.Sound) (key : QueryKey) : (s.withdraw key).2.Sound := by
  rw [Service.withdraw]
  split
  · exact h
  · next record roster heq =>
    obtain ⟨hf, rfl⟩ := Prod.mk.inj heq
    exact (h.toBalanced.remove hf).pass

lemma Sound.complete (h : s.Sound) (key : QueryKey) : (s.complete key).2.Sound := by
  have hw := h.withdraw key
  rw [Service.complete]
  split
  · next heq => rwa [heq] at hw
  · next heq =>
    rw [heq] at hw
    exact hw.congr rfl rfl

lemma Sound.look (h : s.Sound) (key : QueryKey) : (s.look key).2.Sound := by
  rw [Service.look]
  split
  · exact h
  · next status _ =>
    by_cases hc : s.running = 0 ∧ status ≠ .available
    · rw [if_pos hc]
      exact (h.toBalanced.count _).pass
    · rw [if_neg hc]
      exact h

lemma Sound.depart (h : s.Sound) (key : QueryKey) (why : Departure) : (s.depart key why).Sound := by
  cases why with
  | shutDown => exact h.withdraw key
  | cancelled => exact (h.withdraw key).congr rfl rfl

lemma Sound.poll (h : s.Sound) (key : QueryKey) (called : Bool) : (s.poll key called).2.Sound := by
  have hl := h.look key
  rw [Service.poll]
  split
  · next heq => rwa [heq] at hl
  · next heq => rwa [heq] at hl
  · next s' heq =>
    rw [heq] at hl
    split_ifs
    · exact hl.depart key .shutDown
    · exact hl.depart key .cancelled
    · exact hl

lemma Sound.giveUp (h : s.Sound) (key : QueryKey) : (s.giveUp key).Sound := by
  rw [Service.giveUp]
  split
  · exact h
  · next record hf => exact ((h.toBalanced.giveUp hf).count _).pass

/-- A query that holds a slot, or whose record is gone, may be marked as running. -/
lemma Sound.markRunning (h : s.Sound) {key : QueryKey}
    (hk : ∀ status, s.status? key = some status → status.holdsSlot) :
    (s.markRunning key).2.Sound := by
  rw [Service.markRunning]
  split
  · exact h
  · next status hs =>
    obtain ⟨record, hf, rfl⟩ := Option.map_eq_some_iff.1 hs
    refine ⟨⟨?_, h.running_le, ?_, h.capacity_eq, ?_⟩, ?_⟩
    · have hs := Roster.slotHolders_setStatus h.keys_nodup hf .running
      have hr : record.status.slots = Status.running.slots := by
        rw [Status.slots, if_pos (hk _ ‹_›)]
        rfl
      have heq := h.running_eq
      show s.running = (s.schedule.roster.setStatus key .running).slotHolders
      rw [Schedule.slotsInUse] at heq
      omega
    · show ((s.schedule.roster.setStatus key .running).records.map (·.key)).Nodup
      rw [Roster.map_key_setStatus]
      exact h.keys_nodup
    · show (s.schedule.roster.setStatus key .running).size ≤ _
      rw [Roster.size_setStatus]
      exact h.size_le
    · intro r hr
      obtain ⟨x, hx, rfl⟩ := List.mem_map.1 hr
      split
      · simp
      · exact h.settled x hx

lemma Sound.sweep (h : s.Sound) (session : SessionId) : (s.sweep session).2.Sound := by
  rw [Service.sweep]
  split
  · exact h
  · next removed roster _ heq =>
    obtain ⟨rfl, rfl⟩ := Prod.mk.inj heq
    exact ((h.toBalanced.removeSession session).count _).pass

lemma Sound.shutDown (h : s.Sound) : s.shutDown.Sound := h.congr rfl rfl

lemma Sound.apply (h : s.Sound) {op : Op} (hop : op.Admissible s) : (s.apply op).Sound := by
  cases op with
  | register key affected transaction => exact h.register key affected transaction
  | complete key => exact h.complete key
  | pass => exact h.pass
  | poll key called => exact h.poll key called
  | giveUp key => exact h.giveUp key
  | markRunning key => exact h.markRunning hop
  | sweep session => exact h.sweep session
  | shutDown => exact h.shutDown

/-! ### No slot is freed twice -/

section With

variable {free : Schedule → Record → Schedule}

/-- A record on the roster holds one of the slots in use, if it holds any. -/
lemma Sound.running_pos (h : s.Sound) {key : QueryKey} {record : Record}
    (hf : s.find? key = some record) (hr : record.holdsSlot) : 0 < s.running := by
  rw [h.running_eq]
  exact List.countP_pos_iff.2 ⟨record, List.mem_of_find?_eq_some hf, hr⟩

lemma Sound.withdrawWith_eq (h : s.Sound) (hf : Schedule.FreesInUse free) (key : QueryKey) :
    s.withdrawWith free key = s.withdraw key := by
  rw [withdrawWith, Service.withdraw]
  rcases heq : s.schedule.roster.remove key with ⟨_ | record, roster⟩
  · rfl
  · have hk : s.find? key = some record := (Prod.mk.inj heq).1
    dsimp only
    rw [hf { s.schedule with roster } record fun hr => h.running_pos hk hr]

lemma Sound.departWith_eq (h : s.Sound) (hf : Schedule.FreesInUse free) (key : QueryKey)
    (why : Departure) : s.departWith free key why = s.depart key why := by
  cases why with
  | shutDown => rw [departWith, h.withdrawWith_eq hf, Service.depart]
  | cancelled => rw [departWith, h.withdrawWith_eq hf, Service.depart]

lemma Sound.pollWith_eq (h : s.Sound) (hf : Schedule.FreesInUse free) (key : QueryKey)
    (called : Bool) : s.pollWith free key called = (s.poll key called).2 := by
  have hl := h.look key
  rw [← pollWith_release]
  unfold pollWith
  rcases heq : s.look key with ⟨_ | _ | _, s'⟩
  · rfl
  · rfl
  · have hs : s'.Sound := by rwa [heq] at hl
    simp only [hs.departWith_eq hf, departWith_release]

lemma Sound.giveUpWith_eq (h : s.Sound) (hf : Schedule.FreesInUse free) (key : QueryKey) :
    s.giveUpWith free key = s.giveUp key := by
  rw [giveUpWith, Service.giveUp]
  rcases hk : s.find? key with _ | record
  · rfl
  · dsimp only
    rw [hf s.schedule record fun hr => h.running_pos hk hr]

lemma Sound.sweepWith_eq (h : s.Sound) (hf : Schedule.FreesInUse free) (session : SessionId) :
    s.sweepWith free session = (s.sweep session).2 := by
  have hle : (s.schedule.roster.removeSession session).1.countP Record.holdsSlot ≤ s.running := by
    rw [h.running_eq]
    exact List.filter_sublist.countP_le
  rw [← sweepWith_release]
  unfold sweepWith
  rcases heq : s.schedule.roster.removeSession session with ⟨_ | ⟨r, l⟩, roster⟩
  · rfl
  · rw [heq] at hle
    dsimp only
    rw [hf.foldl_eq (r :: l) { s.schedule with roster } hle]

/-- A sound scheduler never frees a slot while none is in use: what would happen then makes no
difference. -/
lemma Sound.applyWith_eq (h : s.Sound) (hf : Schedule.FreesInUse free) (op : Op) :
    s.applyWith free op = s.apply op := by
  cases op with
  | complete key =>
    show s.completeWith free key = (s.complete key).2
    rw [← completeWith_release, completeWith, h.withdrawWith_eq hf]
    rfl
  | poll key called => exact h.pollWith_eq hf key called
  | giveUp key => exact h.giveUpWith_eq hf key
  | sweep session => exact h.sweepWith_eq hf session
  | register | pass | markRunning | shutDown => rfl

end With

/-! ### Runs -/

lemma sound_ofSettings (settings : Settings) : (ofSettings settings).Sound where
  running_eq := rfl
  running_le := Nat.zero_le _
  keys_nodup := List.nodup_nil
  capacity_eq := rfl
  size_le := Nat.zero_le _
  settled := by
    intro r hr
    cases hr

lemma build_eq_ok {settings : Settings} (h : build settings = .ok s) :
    s = ofSettings settings ∧ settings.check = .ok () := by
  rw [build] at h
  split at h
  · next hc =>
    cases h
    exact ⟨rfl, hc⟩
  · cases h

/-- Two schedulers with the same settings, of which the same sessions were opened. -/
def Alike (s s' : Service) : Prop := s'.settings = s.settings ∧ s'.opened = s.opened

@[refl] lemma Alike.refl (s : Service) : s.Alike s := ⟨rfl, rfl⟩

lemma Alike.trans {s' s'' : Service} (h : s.Alike s') (h' : s'.Alike s'') : s.Alike s'' :=
  ⟨h'.1.trans h.1, h'.2.trans h.2⟩

lemma alike_register (s : Service) (key : QueryKey) (affected : List ViewId)
    (transaction : TransactionId) : s.Alike (s.register key affected transaction).2 := by
  rw [register]
  split
  · rfl
  · split <;> exact ⟨rfl, rfl⟩

lemma alike_withdraw (s : Service) (key : QueryKey) : s.Alike (s.withdraw key).2 := by
  rw [withdraw]
  split <;> exact ⟨rfl, rfl⟩

lemma alike_complete (s : Service) (key : QueryKey) : s.Alike (s.complete key).2 := by
  have hw := s.alike_withdraw key
  rw [complete]
  split
  · next heq => rwa [heq] at hw
  · next heq => rwa [heq] at hw

lemma alike_depart (s : Service) (key : QueryKey) (why : Departure) :
    s.Alike (s.depart key why) := by
  cases why <;> exact s.alike_withdraw key

lemma alike_look (s : Service) (key : QueryKey) : s.Alike (s.look key).2 := by
  rw [look]
  split
  · rfl
  · dsimp only
    split_ifs <;> exact ⟨rfl, rfl⟩

lemma alike_poll (s : Service) (key : QueryKey) (called : Bool) :
    s.Alike (s.poll key called).2 := by
  have hl := s.alike_look key
  rw [poll]
  split
  · next heq => rwa [heq] at hl
  · next heq => rwa [heq] at hl
  · next s' heq =>
    rw [heq] at hl
    split_ifs
    · exact hl.trans (s'.alike_depart key .shutDown)
    · exact hl.trans (s'.alike_depart key .cancelled)
    · exact hl

lemma alike_giveUp (s : Service) (key : QueryKey) : s.Alike (s.giveUp key) := by
  rw [giveUp]
  split <;> exact ⟨rfl, rfl⟩

lemma alike_markRunning (s : Service) (key : QueryKey) : s.Alike (s.markRunning key).2 := by
  rw [markRunning]
  split <;> exact ⟨rfl, rfl⟩

lemma alike_sweep (s : Service) (session : SessionId) : s.Alike (s.sweep session).2 := by
  rw [sweep]
  split <;> exact ⟨rfl, rfl⟩

lemma alike_apply (s : Service) (op : Op) : s.Alike (s.apply op) := by
  cases op with
  | register key affected transaction => exact s.alike_register key affected transaction
  | complete key => exact s.alike_complete key
  | poll key called => exact s.alike_poll key called
  | giveUp key => exact s.alike_giveUp key
  | markRunning key => exact s.alike_markRunning key
  | sweep session => exact s.alike_sweep session
  | pass | shutDown => exact ⟨rfl, rfl⟩

lemma Run.alike {s₀ : Service} {ops : List Op} (h : Run s₀ ops s) : s₀.Alike s := by
  induction h with
  | nil => rfl
  | snoc _ _ ih => exact ih.trans (alike_apply _ _)

lemma Run.sound {s₀ : Service} (h₀ : s₀.Sound) {ops : List Op} (h : Run s₀ ops s) : s.Sound := by
  induction h with
  | nil => exact h₀
  | snoc _ hop ih => exact ih.apply hop

/-- On a scheduler with settings in order, after any operations: as many slots are in use as there
are records that are available or running, and no more than there are slots; nobody has given a
slot up without waiting again; the roster is not overfull. And no operation, of those before and of
any that may follow, takes a slot off the count while the count is zero. -/
theorem slot_account {settings : Settings} {s₀ : Service} (hb : build settings = .ok s₀)
    {ops : List Op} (hrun : Run s₀ ops s) :
    s.running = s.records.countP (fun r => r.status = .available ∨ r.status = .running) ∧
      s.running ≤ settings.maxConcurrent.toNat ∧
      (∀ r ∈ s.records, r.status ≠ .gaveUp) ∧
      s.records.length ≤ settings.maxQueries.toNat ∧
      ∀ free, Schedule.FreesInUse free → ∀ op, s.applyWith free op = s.apply op := by
  obtain ⟨rfl, -⟩ := build_eq_ok hb
  have h : s.Sound := hrun.sound (sound_ofSettings settings)
  have hs : s.settings = settings := hrun.alike.1
  refine ⟨?_, ?_, h.settled, ?_, fun free hf op => h.applyWith_eq hf op⟩
  · rw [h.running_eq]
    apply List.countP_congr
    intro r _
    rw [Record.holdsSlot]
    cases r.status <;> simp
  · rw [← hs]
    exact h.running_le
  · rw [← hs]
    exact h.size_le

/-- With one slot: a query gives it up to another one, which runs and is swept away, and then polls
until it has the slot again. -/
theorem slot_account_retreat :
    let settings : Settings := ⟨1, 4, 2, .ofNanos 30000⟩
    let ops : List Op :=
      [.register ⟨1, 1⟩ [1] 7, .register ⟨2, 1⟩ [1] 8, .giveUp ⟨1, 1⟩, .markRunning ⟨2, 1⟩,
        .sweep 2, .poll ⟨1, 1⟩ false]
    let s := ops.foldl apply (ofSettings settings)
    build settings = .ok (ofSettings settings) ∧ Run (ofSettings settings) ops s ∧
      s.running = s.records.countP (fun r => r.status = .available ∨ r.status = .running) ∧
      s.running ≤ settings.maxConcurrent.toNat ∧
      (∀ r ∈ s.records, r.status ≠ .gaveUp) ∧
      s.records.length ≤ settings.maxQueries.toNat ∧
      ∀ free, Schedule.FreesInUse free → ∀ op, s.applyWith free op = s.apply op := by
  intro settings ops s
  have hb : build settings = .ok (ofSettings settings) := rfl
  have h₁ : Run (ofSettings settings) (ops.take 1) _ := .snoc .nil trivial
  have h₂ : Run (ofSettings settings) (ops.take 2) _ := .snoc h₁ trivial
  have h₃ : Run (ofSettings settings) (ops.take 3) _ := .snoc h₂ trivial
  have hm : (Op.markRunning ⟨2, 1⟩).Admissible ((ops.take 3).foldl apply (ofSettings settings)) := by
    intro status hs
    have ha : ((ops.take 3).foldl apply (ofSettings settings)).status? ⟨2, 1⟩ = some .available := by
      decide
    rw [ha] at hs
    cases hs
    rfl
  have h₄ : Run (ofSettings settings) (ops.take 4) _ := .snoc h₃ hm
  have h₅ : Run (ofSettings settings) (ops.take 5) _ := .snoc h₄ trivial
  have hrun : Run (ofSettings settings) ops s := .snoc h₅ trivial
  exact ⟨hb, hrun, slot_account hb hrun⟩

end Service

end QueryAdmission
