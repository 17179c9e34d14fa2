import QueryAdmission.Proofs.Order

/-!
# No leak at rest

Traffic is at rest when nothing is halfway: of all that goes on, starts are parked, executions are
open, and utility commands are open (`Traffic.AtRest`). Then the roster, the count of slots and the
lock table say just what the sessions and the parked starts account for: no record, slot or lock is
left over.
-/

namespace QueryAdmission

/-- A start is parked if it is in its wait, and its query has a record and no slot. -/
def Start.IsParked (w : World MemoryHost) (c : Start) : Prop :=
  ∃ key a wait status, c.phase = .admitting key a ∧ a.phase = .waiting wait ∧
    w.service.status? key = some status ∧ status.holdsSlot = false

/-- A start whose next poll would send it back to sleep is parked. -/
lemma Start.isParked_of_asleep {w w₁ w₂ : World MemoryHost} {c c₁ c₂ : Start} {key : QueryKey}
    {a : Admission} {wait : Wait} (hp : c.phase = .admitting key a) (hw : a.phase = .waiting wait)
    (hl : wait.phase = .looking) (hk : wait.key = key) (h₁ : c.advance w = (w₁, .next c₁))
    (h₂ : c₁.advance w₁ = (w₂, .sleep c₂)) : c.IsParked w := by
  have hkept := w.service.kept_look key key
  rcases hs : w.service.look wait.key with ⟨sight, service⟩
  rw [hk] at hs
  rw [hs] at hkept
  simp only [advance, hp, Admission.advance, hw, Wait.advance, hl, hk, hs] at h₁
  cases sight with
  | gone => cases h₁
  | granted =>
    cases h₁
    rcases ht : a.tables with _ | ⟨t, ts⟩
    · rcases hm : service.markRunning a.key with ⟨_ | _, service'⟩ <;>
        simp [advance, inPhase, Admission.inPhase, Admission.advance, LockPass.ofTables,
          LockPass.proceed, ht, hm] at h₂
    · simp [advance, inPhase, Admission.inPhase, Admission.advance, LockPass.ofTables,
        LockPass.proceed, ht] at h₂
  | queued =>
    obtain ⟨status', hst', hh⟩ := w.service.look_found key hs (by simp)
    have hno : status'.holdsSlot = false := by simpa using hh
    rw [hst'] at hkept
    obtain ⟨status, hst⟩ := Option.isSome_iff_exists.1 hkept.isSome.symm
    refine ⟨key, a, wait, status, hp, hw, hst, ?_⟩
    rw [hst] at hkept
    rcases hkept with heq | hpass
    · rwa [← Option.some.inj heq]
    · cases hpass with
      | some hpass =>
        cases hpass with
        | stay => exact hno
        | grant => cases hno
        | again => rfl

namespace Activity

/-- Whether it is not halfway through something: a parked start, an open execution, or an open
utility command. -/
def Rests (w : World MemoryHost) : Activity → Prop
  | start c _ => c.IsParked w
  | inside _ _ | utility _ (some _) => True
  | entering _ _ | finish _ | abort _ _ | utility _ none => False

/-- The key of a query that is on its way through admission. -/
def admittedKey : Activity → Option QueryKey
  | start c _ =>
    match c.phase with
    | .admitting key _ => some key
    | _ => none
  | _ => none

variable {w : World MemoryHost} {a : Activity} {acts : Multiset Activity} {key : QueryKey}

/-- At rest, nothing is in charge of tables, and starts answer for the keys of their queries. -/
lemma Rests.account (h : a.Rests w) :
    a.taken = [] ∧ a.sweeps = 0 ∧ a.keys = (a.admittedKey.map singleton).getD 0 := by
  cases a with
  | start c executes =>
    obtain ⟨key, b, wait, status, hp, hw, -⟩ := h
    simp [taken, sweeps, keys, admittedKey, Start.taken, Start.keys, Admission.taken, hp, hw]
  | inside | utility => exact ⟨rfl, rfl, rfl⟩
  | entering | finish | abort => exact h.elim

lemma bind_keys_of_rests (h : ∀ a ∈ acts, a.Rests w) :
    acts.bind keys = acts.filterMap admittedKey := by
  induction acts using Multiset.induction with
  | empty => rfl
  | cons a acts ih =>
    have hkeys := (h a (Multiset.mem_cons_self a acts)).account.2.2
    rw [Multiset.cons_bind, Multiset.filterMap_cons, hkeys, ih fun b hb =>
      h b (Multiset.mem_cons_of_mem hb)]

/-- The query of a parked start waits. -/
lemma Rests.status? (h : a.Rests w) (hw : w.service.Sound) (hk : a.admittedKey = some key) :
    w.service.status? key = some .waiting := by
  cases a with
  | start c executes =>
    obtain ⟨key', b, wait, status, hp, -, hs, hh⟩ := h
    have hkey : key' = key := by simpa [admittedKey, hp] using hk
    subst hkey
    rw [hs]
    cases status with
    | waiting => rfl
    | available | running => cases hh
    | gaveUp =>
      obtain ⟨r, hr, -, hg⟩ := (Roster.status?_eq_some_iff hw.keys_nodup).1 hs
      exact absurd hg (hw.settled r hr)
  | inside | utility | entering | finish | abort => cases hk

end Activity

namespace Traffic

/-- Nothing is halfway. -/
def AtRest (t : Traffic) : Prop := ∀ a ∈ t.underway, a.Rests t.world

variable {t : Traffic} {s : Session} {id : SessionId} {k : QueryKey} {u : TableId}

/-! ### Locks at rest -/

lemma AtRest.share_eq (hr : t.AtRest) (h : t.Ordered) (hs : s ∈ t.world.sessions) (u : TableId) :
    t.world.host.locks.share s.id u = s.lockedTables.count u := by
  have hidle : ∀ a ∈ t.within s.id, a.taken = [] := fun a ha =>
    (hr a (Activity.mem_ofSession.1 ha).1).account.1
  rw [(h.of_mem hs).share_eq, Activity.sum_count_taken hidle, Nat.add_zero]

lemma AtRest.owner_iff (hr : t.AtRest) (h : t.Ordered) :
    t.world.host.locks.owner u = some id
      ↔ ∃ s ∈ t.world.sessions, s.id = id ∧ u ∈ s.lockedTables := by
  constructor
  · intro ho
    have hp := LockTable.share_pos.2 ho
    rcases hs : t.world.session? id with _ | s
    · have hz := (h.absent id hs).2.1 u
      omega
    · obtain ⟨hm, rfl⟩ := h.proper.session?_eq_some.1 hs
      rw [hr.share_eq h hm] at hp
      exact ⟨s, hm, rfl, List.count_pos_iff.1 hp⟩
  · rintro ⟨s, hm, rfl, hu⟩
    rw [← LockTable.share_pos, hr.share_eq h hm]
    exact List.count_pos_iff.2 hu

/-- No table is locked twice, neither for one query nor for two. -/
lemma AtRest.nodup_locked (hr : t.AtRest) (h : t.Ordered) :
    (t.world.sessions.flatMap Session.lockedTables).Nodup := by
  rw [List.nodup_flatMap]
  constructor
  · intro s hs
    rw [List.nodup_iff_count_le_one]
    intro u
    rw [← hr.share_eq h hs]
    exact LockTable.share_le_one _ _ _
  · have hp : t.world.sessions.Pairwise fun a b => a.id ≠ b.id := List.pairwise_map.1 h.distinct
    refine hp.imp_of_mem fun {a b} ha hb hne => ?_
    intro u hua hub
    have hoa := (hr.owner_iff h).2 ⟨a, ha, rfl, hua⟩
    have hob := (hr.owner_iff h).2 ⟨b, hb, rfl, hub⟩
    rw [hoa] at hob
    exact hne (Option.some.inj hob)

/-! ### Records at rest -/

lemma Ordered.mem_activeKeys (h : t.Ordered) :
    k ∈ t.world.sessions.filterMap Session.activeKey
      ↔ ∃ s, t.world.session? k.session = some s ∧ k ∈ s.keys := by
  rw [List.mem_filterMap]
  have hkeys (s : Session) : s.activeKey = some k ↔ k ∈ s.keys := by
    rcases ha : s.active with _ | q
    · simp [Session.activeKey, Session.keys, ha]
    · simp [Session.activeKey, Session.keys, ha, eq_comm]
  constructor
  · rintro ⟨s, hs, hk⟩
    have hk := (hkeys s).1 hk
    have hid := ((h.of_mem hs).regular.bounded_active hk).1
    exact ⟨s, h.proper.session?_eq_some.2 ⟨hs, hid.symm⟩, hk⟩
  · rintro ⟨s, hs, hk⟩
    exact ⟨s, (h.proper.session?_eq_some.1 hs).1, (hkeys s).2 hk⟩

lemma AtRest.mem_admittedKeys (hr : t.AtRest) (h : t.Ordered) :
    k ∈ t.underway.filterMap Activity.admittedKey
      ↔ k ∈ (t.within k.session).bind Activity.keys := by
  rw [← Activity.bind_keys_of_rests hr, Multiset.mem_bind, Multiset.mem_bind]
  constructor
  · rintro ⟨a, ha, hk⟩
    exact ⟨a, Activity.mem_ofSession.2 ⟨ha, (h.proper.session_eq ha hk).symm⟩, hk⟩
  · rintro ⟨a, ha, hk⟩
    exact ⟨a, (Activity.mem_ofSession.1 ha).1, hk⟩

/-- At rest, a record is that of an active query or of a parked start, and shows it. -/
lemma AtRest.status?_iff (hr : t.AtRest) (h : t.Ordered) :
    (t.world.service.status? k = some .running
        ↔ k ∈ t.world.sessions.filterMap Session.activeKey) ∧
      (t.world.service.status? k = some .waiting
        ↔ k ∈ t.underway.filterMap Activity.admittedKey) ∧
      (t.world.service.status? k = none ∨ t.world.service.status? k = some .running ∨
        t.world.service.status? k = some .waiting) := by
  have running (hk : k ∈ t.world.sessions.filterMap Session.activeKey) :
      t.world.service.status? k = some .running := by
    obtain ⟨s, hs, hk⟩ := h.mem_activeKeys.1 hk
    exact (h.present _ s hs).running k hk
  have waiting (hk : k ∈ t.underway.filterMap Activity.admittedKey) :
      t.world.service.status? k = some .waiting := by
    obtain ⟨a, ha, hk⟩ := (Multiset.mem_filterMap _ _).1 hk
    exact (hr a ha).status? h.sound hk
  have answered (hn : t.world.service.status? k ≠ none) :
      k ∈ t.world.sessions.filterMap Session.activeKey ∨
        k ∈ t.underway.filterMap Activity.admittedKey := by
    rcases hs : t.world.session? k.session with _ | s
    · exact absurd ((h.absent _ hs).2.2 k rfl) hn
    · have hid := World.id_of_session? hs
      rcases (h.present _ s hs).answered k hid.symm hn with hk | ⟨a, ha, hsw⟩
      · rcases Multiset.mem_add.1 hk with hk | hk
        · exact .inl (h.mem_activeKeys.2 ⟨s, hs, hk⟩)
        · exact .inr ((hr.mem_admittedKeys h).2 hk)
      · rw [(hr a (Activity.mem_ofSession.1 ha).1).account.2.1] at hsw
        exact absurd hsw (Nat.lt_irrefl 0)
  refine ⟨⟨fun hst => ?_, running⟩, ⟨fun hst => ?_, waiting⟩, ?_⟩
  · apply (answered (by simp [hst])).resolve_right
    intro hk
    rw [waiting hk] at hst
    cases hst
  · apply (answered (by simp [hst])).resolve_left
    intro hk
    rw [running hk] at hst
    cases hst
  · by_cases hn : t.world.service.status? k = none
    · exact .inl hn
    · exact .inr ((answered hn).imp running waiting)

lemma Ordered.nodup_activeKeys (h : t.Ordered) :
    (t.world.sessions.filterMap Session.activeKey).Nodup := by
  have hp : t.world.sessions.Pairwise fun a b => a.id ≠ b.id := List.pairwise_map.1 h.distinct
  refine List.pairwise_filterMap.2 (hp.imp_of_mem fun {a b} ha hb hne => ?_)
  have hid {s : Session} (hs : s ∈ t.world.sessions) {k : QueryKey} (hk : s.activeKey = some k) :
      k.session = s.id := by
    refine ((h.of_mem hs).regular.bounded_active ?_).1
    obtain ⟨q, hq, rfl⟩ := Option.map_eq_some_iff.1 hk
    exact Session.mem_keys.2 ⟨q.locked, hq⟩
  rintro k hka _ hkb rfl
  exact hne ((hid ha hka).symm.trans (hid hb hkb))

/-- No two parked starts are those of one query: two of different sessions have different keys, and
those of one session do not answer for the same key. -/
lemma AtRest.nodup_admittedKeys (hr : t.AtRest) (h : t.Ordered) :
    (t.underway.filterMap Activity.admittedKey).Nodup := by
  rw [← Activity.bind_keys_of_rests hr, Multiset.nodup_iff_count_le_one]
  intro k
  by_cases hk : k ∈ t.underway.bind Activity.keys
  · rw [Activity.bind_keys_of_rests hr, hr.mem_admittedKeys h] at hk
    have hsplit := Multiset.filter_add_not (fun a : Activity => a.session = k.session) t.underway
    have hother : k ∉ (t.underway.filter fun a => ¬a.session = k.session).bind Activity.keys := by
      intro hk
      obtain ⟨a, ha, hka⟩ := Multiset.mem_bind.1 hk
      obtain ⟨ha, hne⟩ := Multiset.mem_filter.1 ha
      exact hne (h.proper.session_eq ha hka).symm
    rw [← hsplit, Multiset.add_bind, Multiset.count_add, Multiset.count_eq_zero_of_notMem hother]
    rcases hs : t.world.session? k.session with _ | s
    · rw [(h.absent _ hs).1] at hk
      exact absurd hk (Multiset.notMem_zero k)
    · have hn := (Multiset.nodup_add.1 (h.present _ s hs).nodup).2.1
      exact Multiset.nodup_iff_count_le_one.1 hn k
  · rw [Multiset.count_eq_zero_of_notMem hk]
    exact Nat.zero_le 1

lemma mem_keys_filter (h : t.Ordered) (st : Status) :
    k ∈ (t.world.service.records.filter (·.status = st)).map (·.key)
      ↔ t.world.service.status? k = some st := by
  rw [Service.status?, Roster.status?_eq_some_iff h.sound.keys_nodup]
  simp only [List.mem_map, List.mem_filter, decide_eq_true_eq]
  constructor
  · rintro ⟨r, ⟨hr, hst⟩, hk⟩
    exact ⟨r, hr, hk, hst⟩
  · rintro ⟨r, hr, hk, hst⟩
    exact ⟨r, ⟨hr, hst⟩, hk⟩

lemma nodup_keys_filter (h : t.Ordered) (st : Status) :
    ((t.world.service.records.filter (·.status = st)).map (·.key)).Nodup :=
  h.sound.keys_nodup.sublist (List.filter_sublist.map _)

/-- After any run in which the starts of a session do not overlap, and at rest: the running records
are those of the sessions' active queries, one for each; the waiting records are those of the parked
starts, one for each; and there are no others. As many slots are in use as queries are active. A
table belongs to a session just if it is locked for the session's active query, and no table is
locked twice. -/
theorem no_leak {settings : Settings} {service : Service}
    (hb : Service.build settings = .ok service) {index : ViewIndex} {events : List Event}
    (hrun : Run Activity.isStart (ofService service index) events t) (hrest : t.AtRest) :
    ((t.world.service.records.filter (·.status = .running)).map (·.key)).Perm
        (t.world.sessions.filterMap Session.activeKey) ∧
      (↑((t.world.service.records.filter (·.status = .waiting)).map (·.key)) : Multiset QueryKey)
        = t.underway.filterMap Activity.admittedKey ∧
      (∀ r ∈ t.world.service.records, r.status = .running ∨ r.status = .waiting) ∧
      t.world.service.running = (t.world.sessions.filterMap Session.activeKey).length ∧
      (∀ u id, t.world.host.locks.owner u = some id
        ↔ ∃ s ∈ t.world.sessions, s.id = id ∧ u ∈ s.lockedTables) ∧
      (t.world.sessions.flatMap Session.lockedTables).Nodup := by
  have h : t.Ordered := hrun.ordered (ordered_ofService hb index) rfl fun _ h => h
  have hperm : ((t.world.service.records.filter (·.status = .running)).map (·.key)).Perm
      (t.world.sessions.filterMap Session.activeKey) := by
    rw [List.perm_ext_iff_of_nodup (nodup_keys_filter h .running) h.nodup_activeKeys]
    intro k
    rw [mem_keys_filter h]
    exact (hrest.status?_iff h).1
  have hall (r : Record) (hr : r ∈ t.world.service.records) :
      r.status = .running ∨ r.status = .waiting := by
    have hst : t.world.service.status? r.key = some r.status :=
      (Roster.status?_eq_some_iff h.sound.keys_nodup).2 ⟨r, hr, rfl, rfl⟩
    rcases (hrest.status?_iff (k := r.key) h).2.2 with hn | hn | hn
    · rw [hst] at hn
      cases hn
    · rw [hst] at hn
      exact .inl (Option.some.inj hn)
    · rw [hst] at hn
      exact .inr (Option.some.inj hn)
  refine ⟨hperm, ?_, hall, ?_, fun u id => hrest.owner_iff h, hrest.nodup_locked h⟩
  · have hn := Multiset.coe_nodup.2 (nodup_keys_filter h .waiting)
    apply (Multiset.Nodup.ext hn (hrest.nodup_admittedKeys h)).2
    intro k
    rw [Multiset.mem_coe, mem_keys_filter h]
    exact (hrest.status?_iff h).2.1
  · rw [← hperm.length_eq, List.length_map, ← List.countP_eq_length_filter, h.sound.running_eq]
    apply List.countP_congr
    intro r hr
    rcases hall r hr with hs | hs
    · simp [Record.holdsSlot, hs]
    · simp [Record.holdsSlot, hs]

lemma start_of_advance (a b : Activity) (w : World MemoryHost)
    (h : (a.advance w).2.call? = some b) : b.isStart → a.isStart := by
  intro hb
  cases a with
  | start => rfl
  | finish c =>
    obtain ⟨c', -, rfl⟩ := Activity.mem_ofCall h
    exact hb
  | abort c closes =>
    obtain ⟨c', -, rfl⟩ := Activity.mem_ofCall h
    exact hb
  | entering id key =>
    rw [Activity.advance] at h
    split at h <;> cases h <;> exact hb
  | inside id key =>
    rw [Activity.advance] at h
    split at h
    · cases h
      exact hb
    · cases key <;> cases h
      exact hb
  | utility id before =>
    cases before <;>
    · rw [Activity.advance] at h
      split at h <;> cases h <;> exact hb

/-- A session executes a query, and the start of another one is parked because there is one slot. -/
theorem no_leak_parked :
    let service := Service.ofSettings ⟨1, 4, 2, .ofNanos 30000⟩
    let index := ViewIndex.empty.register 1 [10, 20]
    ∃ events t, Run Activity.isStart (ofService service index) events t ∧ t.AtRest ∧
      t.world.service.running = 1 ∧ t.world.service.status? ⟨1, 1⟩ = some .running ∧
      t.world.service.status? ⟨2, 1⟩ = some .waiting ∧
      (↑((t.world.service.records.filter (·.status = .waiting)).map (·.key)) : Multiset QueryKey)
        = t.underway.filterMap Activity.admittedKey ∧
      t.world.service.running = (t.world.sessions.filterMap Session.activeKey).length := by
  intro service index
  let query : Query := ⟨"select", 7, [1], false, false⟩
  have hb : Service.build ⟨1, 4, 2, .ofNanos 30000⟩ = .ok service := rfl
  have hsort (a b : Activity) (w : World MemoryHost) (_ : True)
      (h : (a.advance w).2.call? = some b) : True ∧ (b.isStart → a.isStart) :=
    ⟨trivial, start_of_advance a b w h⟩
  have ho := ordered_ofService hb index
  let opened := (((ofService service index).world.openSession .backend).2.openSession .backend).2
  have h₁ : Run Activity.isStart (ofService service index) _ ⟨opened, 0⟩ :=
    .snoc (.snoc .nil (.opened .backend) (by decide +kernel)) (.opened .backend) (by decide +kernel)
  have h₂ := h₁.begin (a := .start (.ofQuery 1 query) true) rfl (by decide) (by simp) (by decide)
  have h₃ := h₂.sections ho.proper rfl hsort 12 trivial rfl
  have hi : (sections 12 opened (.start (.ofQuery 1 query) true)).2
      = some (.inside 1 (some ⟨1, 1⟩)) := by
    decide +kernel
  rw [hi] at h₃
  have h₄ := h₃.begin (a := .start (.ofQuery 2 query) false) rfl (by decide +kernel)
    (by decide +kernel) (by decide +kernel)
  have h₅ := h₄.sections ho.proper rfl hsort 5 trivial rfl
  let parked := sections 5 (sections 12 opened (.start (.ofQuery 1 query) true)).1
    (.start (.ofQuery 2 query) false)
  let start : Activity := .start ⟨2, query, .admitting ⟨2, 1⟩
    ⟨⟨2, 1⟩, [10, 20], .session 2, .waiting ⟨⟨2, 1⟩, .session 2, 1, .looking⟩⟩⟩ false
  have hp : parked.2 = some start := by decide +kernel
  have hone : parked.1.service.running = 1 := by decide +kernel
  have hr : parked.1.service.status? ⟨1, 1⟩ = some .running := by decide +kernel
  have hs : parked.1.service.status? ⟨2, 1⟩ = some .waiting := by decide +kernel
  change Run _ _ _ ⟨parked.1, Activity.after parked.2 _⟩ at h₅
  clear_value parked
  rw [hp] at h₅
  have hrest : AtRest ⟨parked.1, start ::ₘ {.inside 1 (some ⟨1, 1⟩)}⟩ := by
    intro a ha
    dsimp only at ha
    rw [Multiset.mem_cons, Multiset.mem_singleton] at ha
    rcases ha with rfl | rfl
    · exact ⟨_, _, _, .waiting, rfl, rfl, hs, rfl⟩
    · trivial
  obtain ⟨-, hwaiting, -, hrunning, -⟩ := no_leak hb h₅ hrest
  exact ⟨_, _, h₅, hrest, hone, hr, hs, hwaiting, hrunning⟩

end Traffic

end QueryAdmission
