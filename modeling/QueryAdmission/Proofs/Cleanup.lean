import Mathlib.Data.List.Perm.Basic
import QueryAdmission.Proofs.Grants
import QueryAdmission.Proofs.Statuses

/-!
# The order of clean-up

Every record that leaves gives its slot back, and the pass that follows may hand the slot to a query
that is about to leave itself. In the end this makes no difference (`fill_handOutSlots`): a slot
that is handed out too early comes back when its query leaves, and goes to the query that would have
been given it, had all left at once. So it does not matter in which order records leave, one by one
or all those of a session at once (`cleanup_order`).
-/

namespace QueryAdmission

/-! ### Handing out slots twice -/

section Fill

variable {keep : QueryKey → Bool} {max free : Nat} {records : List Record} {r : Record}

lemma held_cons (keep : QueryKey → Bool) (r : Record) (records : List Record) :
    held keep (r :: records) = (if keep r.key then r.status.slots else 0) + held keep records := by
  rw [held, List.filter_cons]
  cases keep r.key with
  | false => exact (Nat.zero_add _).symm
  | true =>
    rw [if_pos rfl, if_pos rfl, List.countP_cons, Nat.add_comm]
    rfl

lemma fill_cons_of_not (hk : keep r.key = false) (max : Nat) (records : List Record) :
    fill max keep (r :: records) = fill max keep records := by
  simp [fill, held, hk]

/-- A record that does not wait stays as it is, and its slot is not free if it holds one. -/
lemma fill_cons_of_ne (hk : keep r.key) (hw : r.status ≠ .waiting) (max : Nat)
    (records : List Record) :
    fill max keep (r :: records) = r :: fill (max - r.status.slots) keep records := by
  rw [fill, held_cons, if_pos hk, List.filter_cons, if_pos hk, fill, ← Nat.sub_sub]
  cases max - r.status.slots - held keep records with
  | zero => rw [Schedule.handOutSlots_zero, Schedule.handOutSlots_zero]
  | succ free => rw [handOutSlots, if_neg hw]

/-- The first record that waits is given a slot, if one is free. -/
lemma fill_cons_of_waiting (hk : keep r.key) (hw : r.status = .waiting)
    (h : held keep records < max) :
    fill max keep (r :: records) = r.withStatus .available :: fill (max - 1) keep records := by
  have hfree : max - held keep records = max - 1 - held keep records + 1 := by omega
  have hs : r.status.slots = 0 := by rw [hw]; rfl
  rw [fill, held_cons, if_pos hk, hs, Nat.zero_add, List.filter_cons, if_pos hk, hfree,
    handOutSlots, if_pos hw, fill]

/-- Slots that were handed out before make no difference, if there are enough of them beside those
that the records hold. -/
lemma fill_handOutSlots (h : free + held keep records ≤ max) :
    fill max keep (handOutSlots free records).2 = fill max keep records := by
  fun_induction handOutSlots free records generalizing max with
  | case1 => rfl
  | case2 => rfl
  | case3 free r rs hw n rs' heq ih =>
    rw [heq] at ih
    rw [held_cons] at h
    cases hk : keep r.key with
    | false =>
      rw [fill_cons_of_not hk, fill_cons_of_not (by rwa [Record.key_withStatus])]
      exact ih (by omega)
    | true =>
      have hone : (r.withStatus .available).status.slots = 1 := rfl
      rw [fill_cons_of_waiting hk hw (by omega), fill_cons_of_ne (by rwa [Record.key_withStatus])
        (by simp), hone]
      exact congrArg _ (ih (by omega))
  | case4 free r rs hw n rs' heq ih =>
    rw [heq] at ih
    rw [held_cons] at h
    cases hk : keep r.key with
    | false =>
      rw [fill_cons_of_not hk, fill_cons_of_not hk]
      exact ih (by omega)
    | true =>
      rw [hk, if_pos rfl] at h
      rw [fill_cons_of_ne hk hw, fill_cons_of_ne hk hw]
      exact congrArg _ (ih (by omega))

lemma held_le (keep : QueryKey → Bool) (records : List Record) :
    held keep records ≤ records.countP Record.holdsSlot :=
  List.filter_sublist.countP_le

lemma held_filter (keep keep' : QueryKey → Bool) (records : List Record) :
    held keep' (records.filter (keep ·.key)) = held (fun k => keep k && keep' k) records := by
  rw [held, held, List.filter_filter]
  congr 2
  funext r
  exact Bool.and_comm _ _

lemma fill_filter (max : Nat) (keep keep' : QueryKey → Bool) (records : List Record) :
    fill max keep' (records.filter (keep ·.key))
      = fill max (fun k => keep k && keep' k) records := by
  rw [fill, fill, held_filter, List.filter_filter]
  congr 3
  funext r
  exact Bool.and_comm _ _

lemma fill_congr {keep' : QueryKey → Bool} (h : ∀ r ∈ records, keep r.key = keep' r.key) :
    fill max keep records = fill max keep' records := by
  rw [fill, fill, held, held, List.filter_congr h]

/-- What remains of what remains is what remains when all leave at once. -/
lemma fill_fill (h : records.countP Record.holdsSlot ≤ max) (keep' : QueryKey → Bool) :
    fill max keep' (fill max keep records) = fill max (fun k => keep k && keep' k) records := by
  have hle : held keep records ≤ max := Nat.le_trans (held_le keep records) h
  have hle' : held keep' (records.filter (keep ·.key)) ≤ held keep records := held_le keep' _
  rw [← fill_filter]
  exact fill_handOutSlots (by omega)

end Fill

namespace Service

variable {s s₀ : Service} {settings : Settings} {ops : List Op} {key : QueryKey} {r : Record}

lemma Sound.countP_le (h : s.Sound) : s.records.countP Record.holdsSlot ≤ s.slots := by
  have hle := h.running_le
  rwa [h.running_eq] at hle

/-- If a scheduler has come to what remains when some leave, and then others leave too, it comes to
what remains when they leave together. -/
lemma remaining_remaining {s' : Service} (h : s.Sound) (hset : s'.settings = s.settings)
    {keep : QueryKey → Bool} (hr : s'.records = s.remaining keep) (keep' : QueryKey → Bool) :
    s'.remaining keep' = s.remaining fun k => keep k && keep' k := by
  rw [remaining, slots, hset, hr]
  exact fill_fill h.countP_le keep'

/-! ### Records that leave one by one, and all at once -/

/-- The queries are over, one after the other. -/
def completeAll (s : Service) (keys : List QueryKey) : Service :=
  keys.foldl (fun s key => (s.complete key).2) s

lemma records_complete (s : Service) (key : QueryKey) :
    (s.complete key).2.records = (s.withdraw key).2.records := by
  rw [complete]
  split
  · next heq => rw [heq]
  · next heq =>
    rw [heq]
    rfl

lemma Sound.records_complete (h : s.Sound) (hk : s.status? key ≠ none) :
    (s.complete key).2.records = s.remaining (· ≠ key) := by
  obtain ⟨status, hs⟩ := Option.ne_none_iff_exists'.1 hk
  obtain ⟨r, hr, -⟩ := Option.map_eq_some_iff.1 hs
  rw [Service.records_complete]
  exact h.records_withdraw hr

/-- When queries are over one after the other, that remains which would remain if they were over at
the same time. -/
lemma Sound.records_completeAll (h : s.Sound) {keys : List QueryKey} (hne : keys ≠ [])
    (hn : keys.Nodup) (hlive : ∀ k ∈ keys, s.status? k ≠ none) :
    (s.completeAll keys).records = s.remaining (· ∉ keys) := by
  induction keys generalizing s with
  | nil => exact absurd rfl hne
  | cons key keys ih =>
    obtain ⟨hkey, hn⟩ := List.nodup_cons.1 hn
    have hr := h.records_complete (hlive key List.mem_cons_self)
    have hset := (s.alike_complete key).1
    rw [completeAll, List.foldl_cons]
    rcases eq_or_ne keys [] with rfl | hkeys
    · rw [List.foldl_nil, hr]
      simp
    · have hlive' (k : QueryKey) (hk : k ∈ keys) : (s.complete key).2.status? k ≠ none := by
        have hkept := s.kept_complete key k
        rw [if_neg (by rintro rfl; exact hkey hk)] at hkept
        exact fun hnone => hlive k (List.mem_cons_of_mem _ hk) (hkept.eq_none.1 hnone)
      have hrest := ih (h.complete key) hkeys hn hlive'
      rw [completeAll] at hrest
      rw [hrest, remaining_remaining h hset hr]
      apply fill_congr
      intro x _
      simp

lemma Sound.records_sweep (h : s.Sound) {session : SessionId}
    (hlive : ∃ r ∈ s.records, r.session = session) :
    (s.sweep session).2.records = s.remaining (·.session ≠ session) := by
  obtain ⟨r, hr, hrs⟩ := hlive
  rw [Service.sweep]
  split
  · next heq =>
    have hnone : s.records.filter (·.session = session) = [] := (Prod.mk.inj heq).1
    exact absurd hrs (by simpa using List.filter_eq_nil_iff.1 hnone r hr)
  · next removed roster _ heq =>
    obtain ⟨rfl, rfl⟩ := Prod.mk.inj heq
    refine ((h.toBalanced.removeSession session).count _).records_pass_of_left h rfl ?_
    show (Schedule.roster (List.foldl _ _ _)).records = _
    rw [Schedule.roster_foldl_release]
    rfl

/-! ### The rest of the roster -/

/-- The roster of the second scheduler differs from that of the first one in its records at most. -/
def Trims (s s' : Service) : Prop :=
  ∃ records, s'.schedule.roster = { s.schedule.roster with records }

@[refl] lemma Trims.refl (s : Service) : s.Trims s := ⟨s.records, rfl⟩

lemma Trims.trans {s' s'' : Service} (h : s.Trims s') (h' : s'.Trims s'') : s.Trims s'' := by
  obtain ⟨l, hl⟩ := h
  obtain ⟨l', hl'⟩ := h'
  exact ⟨l', by rw [hl', hl]⟩

lemma trims_pass (s : Service) : s.Trims s.pass.2 := ⟨s.pass.2.records, rfl⟩

lemma trims_withdraw (s : Service) (key : QueryKey) : s.Trims (s.withdraw key).2 := by
  rw [withdraw]
  split
  · rfl
  · next record roster heq =>
    obtain ⟨-, rfl⟩ := Prod.mk.inj heq
    exact Trims.trans ⟨_, Schedule.roster_release _ _⟩ (trims_pass _)

lemma trims_complete (s : Service) (key : QueryKey) : s.Trims (s.complete key).2 := by
  have h := s.trims_withdraw key
  rw [complete]
  split
  · next heq => rwa [heq] at h
  · next heq => rwa [heq] at h

lemma trims_sweep (s : Service) (session : SessionId) : s.Trims (s.sweep session).2 := by
  rw [sweep]
  split
  · rfl
  · next removed roster _ heq =>
    obtain ⟨-, rfl⟩ := Prod.mk.inj heq
    exact Trims.trans ⟨_, Schedule.roster_foldl_release _ _⟩ (trims_pass _)

lemma trims_completeAll (s : Service) (keys : List QueryKey) : s.Trims (s.completeAll keys) := by
  induction keys generalizing s with
  | nil => rfl
  | cons key keys ih => exact (s.trims_complete key).trans (ih _)

lemma Sound.completeAll (h : s.Sound) (keys : List QueryKey) : (s.completeAll keys).Sound := by
  induction keys generalizing s with
  | nil => exact h
  | cons key keys ih => exact ih (h.complete key)

/-- Sound schedulers that come from the same one have the same schedule if they have the same
records. -/
lemma Sound.schedule_eq {a b : Service} (ha : a.Sound) (hb : b.Sound) (hta : s.Trims a)
    (htb : s.Trims b) (hr : a.records = b.records) : a.schedule = b.schedule := by
  have hroster : a.schedule.roster = b.schedule.roster := by
    obtain ⟨la, hla⟩ := hta
    obtain ⟨lb, hlb⟩ := htb
    have hl : la = lb := by rwa [records, records, hla, hlb] at hr
    rw [hla, hlb, hl]
  have hrunning : a.schedule.running = b.schedule.running := by
    have hra : a.schedule.running = a.schedule.slotsInUse := ha.running_eq
    have hrb : b.schedule.running = b.schedule.slotsInUse := hb.running_eq
    rw [hra, hrb, Schedule.slotsInUse, Schedule.slotsInUse, hroster]
  exact congrArg₂ Schedule.mk hrunning hroster

/-- On a scheduler with settings in order, after any operations: queries that are over one after the
other leave the same schedule in whatever order they are. If they are all the queries of a session,
then this is also the schedule after a sweep of the session. -/
theorem cleanup_order (hb : build settings = .ok s₀) (hrun : Run s₀ ops s) :
    (∀ keys keys' : List QueryKey, keys.Nodup → (∀ k ∈ keys, s.status? k ≠ none) →
        keys.Perm keys' → (s.completeAll keys).schedule = (s.completeAll keys').schedule) ∧
      ∀ session keys, (∃ r ∈ s.records, r.session = session) →
        keys.Perm ((s.records.filter (·.session = session)).map (·.key)) →
        (s.completeAll keys).schedule = (s.sweep session).2.schedule := by
  obtain ⟨rfl, -⟩ := build_eq_ok hb
  have h : s.Sound := hrun.sound (sound_ofSettings settings)
  constructor
  · intro keys keys' hn hlive hperm
    rcases eq_or_ne keys [] with rfl | hne
    · rw [hperm.nil_eq]
    · have hne' : keys' ≠ [] := fun h => hne (List.perm_nil.1 (h ▸ hperm))
      refine Sound.schedule_eq (h.completeAll _) (h.completeAll _) (s.trims_completeAll _)
        (s.trims_completeAll _) ?_
      rw [h.records_completeAll hne hn hlive, h.records_completeAll hne' (hperm.nodup_iff.1 hn)
        fun k hk => hlive k (hperm.mem_iff.2 hk)]
      exact fill_congr fun r _ => by simp [hperm.mem_iff]
  · intro session keys hlive hperm
    have hmem (k : QueryKey) : k ∈ keys ↔ ∃ r ∈ s.records, r.session = session ∧ r.key = k := by
      simp [hperm.mem_iff, and_assoc]
    have hn : keys.Nodup :=
      hperm.nodup_iff.2 (h.keys_nodup.sublist (List.filter_sublist.map _))
    have hne : keys ≠ [] := by
      obtain ⟨r, hr, hs⟩ := hlive
      exact List.ne_nil_of_mem ((hmem r.key).2 ⟨r, hr, hs, rfl⟩)
    have hstatus (k : QueryKey) (hk : k ∈ keys) : s.status? k ≠ none := by
      obtain ⟨r, hr, -, rfl⟩ := (hmem k).1 hk
      exact fun hnone => Roster.status?_eq_none.1 hnone r hr rfl
    refine Sound.schedule_eq (h.completeAll _) (h.sweep _) (s.trims_completeAll _)
      (s.trims_sweep _) ?_
    rw [h.records_completeAll hne hn hstatus, h.records_sweep hlive]
    refine fill_congr fun r hr => ?_
    have hiff : r.key ∈ keys ↔ r.key.session = session := by
      rw [hmem]
      constructor
      · rintro ⟨x, -, hs, hk⟩
        rwa [Record.session, hk] at hs
      · exact fun hs => ⟨r, hr, hs, rfl⟩
    simp [hiff]

/-- With one slot: the session that holds it has another query, which waits before the query of
another session. Whichever of the two is over first, and also after a sweep, the slot goes to the
other session. -/
theorem cleanup_order_two :
    let settings : Settings := ⟨1, 4, 4, .ofNanos 30000⟩
    let ops : List Op :=
      [.register ⟨1, 1⟩ [1] 7, .register ⟨1, 2⟩ [1] 7, .register ⟨2, 1⟩ [1] 8]
    let s := ops.foldl apply (ofSettings settings)
    build settings = .ok (ofSettings settings) ∧ Run (ofSettings settings) ops s ∧
      (s.completeAll [⟨1, 1⟩, ⟨1, 2⟩]).schedule = (s.completeAll [⟨1, 2⟩, ⟨1, 1⟩]).schedule ∧
      (s.completeAll [⟨1, 2⟩, ⟨1, 1⟩]).schedule = (s.sweep 1).2.schedule ∧
      (s.sweep 1).2.records = [⟨⟨2, 1⟩, .available, [1], 8, 3⟩] := by
  intro settings ops s
  have hb : build settings = .ok (ofSettings settings) := rfl
  have h₁ : Run (ofSettings settings) (ops.take 1) _ := .snoc .nil trivial
  have h₂ : Run (ofSettings settings) (ops.take 2) _ := .snoc h₁ trivial
  have hrun : Run (ofSettings settings) ops s := .snoc h₂ trivial
  obtain ⟨horders, hsweep⟩ := cleanup_order hb hrun
  have hperm : [⟨1, 1⟩, ⟨1, 2⟩].Perm [(⟨1, 2⟩ : QueryKey), ⟨1, 1⟩] := .swap _ _ _
  exact ⟨hb, hrun, horders _ _ (by decide) (by decide) hperm,
    hsweep 1 _ (by decide) (by decide), by decide⟩

end Service

end QueryAdmission
