import Mathlib.Data.Multiset.Filter
import QueryAdmission.Proofs.Regular

/-!
# Traffic of sessions

A scheduler on a host in memory, with any number of sessions and all that goes on in them, one
section after the other in any order (`Traffic.Step`). Sessions are opened, and calls on them are
begun; then the sections of all calls interleave. Signals may be raised, the scheduler may be shut
down, and the index of views may change at any time. In a run (`Traffic.Run`), the calls of one
session keep a discipline: of the kinds that it is about, no two of one session go on at the same
time.

Whatever the discipline, traffic is proper (`Traffic.Proper`) in every state: each open session is
regular, no two sessions share a number, and no session that is not open has a record or anything
that goes on in it.
-/

namespace QueryAdmission

open Status (MayAdmit)

namespace Activity

/-- Those of some activities that go on in the session. -/
def ofSession (id : SessionId) (acts : Multiset Activity) : Multiset Activity :=
  acts.filter (·.session = id)

variable {id : SessionId} {a b : Activity} {a' : Option Activity} {acts : Multiset Activity}

@[simp] lemma mem_ofSession : a ∈ ofSession id acts ↔ a ∈ acts ∧ a.session = id :=
  Multiset.mem_filter

lemma ofSession_cons (h : a.session = id) : ofSession id (a ::ₘ acts) = a ::ₘ ofSession id acts :=
  Multiset.filter_cons_of_pos acts h

lemma ofSession_cons_ne (h : a.session ≠ id) : ofSession id (a ::ₘ acts) = ofSession id acts :=
  Multiset.filter_cons_of_neg acts h

lemma ofSession_after (h : ∀ b ∈ a', b.session = id) :
    ofSession id (after a' acts) = after a' (ofSession id acts) := by
  cases a' with
  | none => rfl
  | some b => exact ofSession_cons (h b rfl)

lemma ofSession_after_ne (h : ∀ b ∈ a', b.session ≠ id) :
    ofSession id (after a' acts) = ofSession id acts := by
  cases a' with
  | none => rfl
  | some b => exact ofSession_cons_ne (h b rfl)

end Activity

/-- A world, and what goes on in it. -/
structure Traffic where
  world : World MemoryHost
  underway : Multiset Activity

namespace Traffic

/-- What goes on in a session. -/
def within (t : Traffic) (id : SessionId) : Multiset Activity := Activity.ofSession id t.underway

/-- Carry out the next section of an activity beside which the rest goes on. A session that is
closed by it is forgotten when it is over. -/
def advance (t : Traffic) (a : Activity) (rest : Multiset Activity) : Traffic :=
  let (world, p) := a.advance t.world
  match p.call? with
  | some a => ⟨world, a ::ₘ rest⟩
  | none => ⟨if a.closes then world.forget a.session else world, rest⟩

/-- What happens in traffic. -/
inductive Event where
  | opened (kind : Session.Kind)
  | begun (a : Activity)
  | advanced (a : Activity)
  | raised (signal : Signal)
  | shutDown
  | indexed (index : ViewIndex)

/-- One thing after the other happens. An activity begins in a session that is open; a session is
closed only when nothing else goes on in it, and nothing begins there after that. -/
inductive Step (t : Traffic) : Event → Traffic → Prop
  | opened (kind : Session.Kind) : Step t (.opened kind) ⟨(t.world.openSession kind).2, t.underway⟩
  | begun {a : Activity} (ha : a.isFresh) (hs : t.world.session? a.session ≠ none)
      (hb : ∀ b ∈ t.underway, b.session = a.session → a.closes = false ∧ b.closes = false) :
      Step t (.begun a) ⟨t.world, a ::ₘ t.underway⟩
  | advanced {a : Activity} {rest : Multiset Activity} (ha : t.underway = a ::ₘ rest) :
      Step t (.advanced a) (t.advance a rest)
  | raised (signal : Signal) : Step t (.raised signal) ⟨t.world.raise signal, t.underway⟩
  | shutDown :
      Step t .shutDown ⟨{ t.world with service := t.world.service.shutDown }, t.underway⟩
  | indexed (index : ViewIndex) :
      Step t (.indexed index) ⟨{ t.world with host := { t.world.host with index } }, t.underway⟩

/-- No two activities of that kind go on in one session. -/
def OneByOne (kind : Activity → Bool) (t : Traffic) : Prop :=
  ((t.underway.filter (kind ·)).map Activity.session).Nodup

instance (kind : Activity → Bool) (t : Traffic) : Decidable (t.OneByOne kind) :=
  inferInstanceAs (Decidable (Multiset.Nodup _))

/-- What happened in traffic since its beginning, where a discipline was kept in all states. -/
inductive Run (kind : Activity → Bool) (t₀ : Traffic) : List Event → Traffic → Prop
  | nil : Run kind t₀ [] t₀
  | snoc {events : List Event} {t t' : Traffic} {e : Event} (h : Run kind t₀ events t)
      (hs : Step t e t') (hd : t'.OneByOne kind) : Run kind t₀ (events ++ [e]) t'

/-- A scheduler with no session, on a host on which no table is locked. -/
def ofService (service : Service) (index : ViewIndex) : Traffic :=
  ⟨.ofService service ⟨index, .empty⟩, 0⟩

/-! ### What holds of all traffic -/

/-- Traffic as it always is. -/
structure Proper (t : Traffic) : Prop where
  sound : t.world.service.Sound
  numbered : ∀ id ∈ t.world.ids, id.number ≤ t.world.service.opened
  distinct : t.world.ids.Nodup
  present : ∀ id s, t.world.session? id = some s → Regular t.world s (t.within id)
  absent : ∀ id, t.world.session? id = none →
    t.within id = 0 ∧ ∀ k, k.session = id → t.world.service.status? k = none

variable {t t' : Traffic} {e : Event} {events : List Event} {kind : Activity → Bool}

lemma proper_ofService {settings : Settings} {service : Service}
    (hb : Service.build settings = .ok service) (index : ViewIndex) :
    (ofService service index).Proper := by
  obtain ⟨rfl, -⟩ := Service.build_eq_ok hb
  refine ⟨Service.sound_ofSettings settings, ?_, List.nodup_nil, ?_, ?_⟩
  · intro id hid
    cases hid
  · intro id s hs
    cases hs
  · intro id _
    exact ⟨rfl, fun k _ => rfl⟩

/-- What changes neither sessions nor records leaves traffic proper. -/
lemma Proper.congr (h : t.Proper) {w : World MemoryHost} (hs : w.sessions = t.world.sessions)
    (ho : w.service.opened = t.world.service.opened)
    (hset : w.service.settings = t.world.service.settings)
    (hsch : w.service.schedule = t.world.service.schedule) : Proper ⟨w, t.underway⟩ := by
  have hst (k : QueryKey) : w.service.status? k = t.world.service.status? k := by
    unfold Service.status?
    rw [hsch]
  have hsess (id : SessionId) : w.session? id = t.world.session? id := by
    unfold World.session?
    rw [hs]
  refine ⟨h.sound.congr hset hsch, ?_, ?_, ?_, ?_⟩
  · show ∀ id ∈ w.ids, _ ≤ w.service.opened
    rw [World.ids, hs, ho]
    exact h.numbered
  · show w.ids.Nodup
    rw [World.ids, hs]
    exact h.distinct
  · intro id s hid
    refine (h.present id s ((hsess id).symm.trans hid)).elsewhere fun k _ => ?_
    exact .inl (hst k)
  · intro id hid
    obtain ⟨hu, hk⟩ := h.absent id ((hsess id).symm.trans hid)
    exact ⟨hu, fun k hks => (hst k).trans (hk k hks)⟩

lemma Proper.session?_of_mem (h : t.Proper) {a : Activity} (ha : a ∈ t.underway) :
    ∃ s, t.world.session? a.session = some s := by
  rcases hs : t.world.session? a.session with _ | s
  · have hm : a ∈ t.within a.session := Activity.mem_ofSession.2 ⟨ha, rfl⟩
    rw [(h.absent _ hs).1] at hm
    exact absurd hm (Multiset.notMem_zero a)
  · exact ⟨s, rfl⟩

lemma Proper.session?_eq_some (h : t.Proper) {s : Session} {id : SessionId} :
    t.world.session? id = some s ↔ s ∈ t.world.sessions ∧ s.id = id := by
  refine ⟨fun hs => ⟨List.mem_of_find?_eq_some hs, World.id_of_session? hs⟩, ?_⟩
  rintro ⟨hm, rfl⟩
  rcases hs : t.world.session? s.id with _ | other
  · have hn := List.find?_eq_none.1 hs s hm
    simp at hn
  · have ho := List.mem_of_find?_eq_some hs
    rw [List.inj_on_of_nodup_map h.distinct ho hm (World.id_of_session? hs)]

/-- An activity answers for keys of its session. -/
lemma Proper.session_eq (h : t.Proper) {a : Activity} (ha : a ∈ t.underway) {k : QueryKey}
    (hk : k ∈ a.keys) : k.session = a.session := by
  obtain ⟨s, hs⟩ := h.session?_of_mem ha
  rw [← World.id_of_session? hs]
  exact ((h.present _ s hs).bounded_of_mem (Activity.mem_ofSession.2 ⟨ha, rfl⟩) hk).1

lemma OneByOne.not_both (hd : t.OneByOne kind) {a b : Activity} {rest : Multiset Activity}
    (ha : t.underway = a ::ₘ rest) (hb : b ∈ rest) (hs : b.session = a.session) (hka : kind a) :
    kind b = false := by
  by_contra hkb
  rw [OneByOne, ha, Multiset.filter_cons_of_pos (p := (kind · = true)) _ hka, Multiset.map_cons,
    Multiset.nodup_cons] at hd
  refine hd.1 (Multiset.mem_map.2 ⟨b, Multiset.mem_filter.2 ⟨hb, ?_⟩, hs⟩)
  simpa using hkb

section Move

variable {a : Activity} {a' : Option Activity} {rest : Multiset Activity} {s s' : Session}
  {w : World MemoryHost}

lemma Proper.regular_cons (h : t.Proper) (ha : t.underway = a ::ₘ rest)
    (hs : t.world.session? a.session = some s) :
    Regular t.world s (a ::ₘ Activity.ofSession a.session rest) := by
  have hr := h.present a.session s hs
  rwa [within, ha, Activity.ofSession_cons rfl] at hr

/-- A section of an activity leaves alone what goes on in other sessions, their tables, and their
records but for the slots that these may be given. -/
lemma Proper.others (h : t.Proper) (ha : t.underway = a ::ₘ rest)
    (hs : t.world.session? a.session = some s) (hm : a.Move t.world s w s' a') {id : SessionId}
    (hne : id ≠ a.session) :
    Activity.ofSession id (Activity.after a' rest) = t.within id ∧
      (∀ u, w.host.locks.owner u = some id ↔ t.world.host.locks.owner u = some id) ∧
      ∀ k, k.session = id → MayAdmit (t.world.service.status? k) (w.service.status? k) := by
  have hr := h.regular_cons ha hs
  have hfits := hr.fitsRoster a (Multiset.mem_cons_self _ _)
  refine ⟨?_, fun u => hm.apart hfits u id hne, fun k hk => ?_⟩
  · rw [within, ha, Activity.ofSession_cons_ne (Ne.symm hne)]
    apply Activity.ofSession_after_ne
    intro b hb
    rw [(hm.same hb).1]
    exact Ne.symm hne
  · refine hm.mayAdmit h.sound hfits (fun hka => hne ?_) (.inl (by rwa [hk]))
    rw [← hk, (hr.bounded_of_mem (Multiset.mem_cons_self _ _) hka).1]
    exact World.id_of_session? hs

/-- A section keeps traffic proper, unless a session is closed by it. -/
lemma Proper.move (h : t.Proper) (ha : t.underway = a ::ₘ rest)
    (hs : t.world.session? a.session = some s) (hm : a.Move t.world s w s' a') :
    Proper ⟨w, Activity.after a' rest⟩ := by
  have hr := h.regular_cons ha hs
  refine ⟨hm.sound h.sound (hr.fitsRoster a (Multiset.mem_cons_self _ _)), ?_, ?_, ?_, ?_⟩
  · show ∀ id ∈ w.ids, id.number ≤ w.service.opened
    rw [hm.ids_eq, hm.alike.2]
    exact h.numbered
  · show w.ids.Nodup
    rw [hm.ids_eq]
    exact h.distinct
  · intro id s₁ hs₁
    have hs₁ : w.session? id = some s₁ := hs₁
    show Regular w s₁ (Activity.ofSession id (Activity.after a' rest))
    by_cases hne : id = a.session
    · subst hne
      rw [hm.session?_eq hs] at hs₁
      cases hs₁
      rw [Activity.ofSession_after fun b hb => (hm.same hb).1]
      exact hr.advance h.sound hm
    · rw [hm.session?_ne hne] at hs₁
      obtain ⟨hu, -, hk⟩ := h.others ha hs hm hne
      have hid : s₁.id = id := World.id_of_session? hs₁
      rw [hu]
      exact (h.present id s₁ hs₁).elsewhere (by rwa [hid])
  · intro id hn
    have hn : w.session? id = none := hn
    have hne : id ≠ a.session := by
      rintro rfl
      rw [hm.session?_eq hs] at hn
      cases hn
    rw [hm.session?_ne hne] at hn
    obtain ⟨hu, -, hk⟩ := h.others ha hs hm hne
    obtain ⟨hu₀, hk₀⟩ := h.absent id hn
    exact ⟨hu.trans hu₀, fun k hks => (hk k hks).eq_none.2 (hk₀ k hks)⟩

end Move

/-- A session in which nothing goes on and that has no records may be forgotten. -/
lemma Proper.forget (h : t.Proper) {id : SessionId} (hu : t.within id = 0)
    (hk : ∀ k, k.session = id → t.world.service.status? k = none) :
    Proper ⟨t.world.forget id, t.underway⟩ := by
  have hids : (t.world.forget id).ids.Sublist t.world.ids := List.filter_sublist.map _
  refine ⟨h.sound, fun i hi => h.numbered i (hids.subset hi), h.distinct.sublist hids, ?_, ?_⟩
  · intro other s₁ hs₁
    have hs₁ : (t.world.forget id).session? other = some s₁ := hs₁
    rw [World.session?_forget] at hs₁
    split_ifs at hs₁ with ho
    exact (h.present other s₁ hs₁).elsewhere fun k _ => Status.MayAdmit.refl _
  · intro other hn
    have hn : (t.world.forget id).session? other = none := hn
    rw [World.session?_forget] at hn
    split_ifs at hn with ho
    · subst ho
      exact ⟨hu, hk⟩
    · exact h.absent other hn

/-- A section leads to what it does to the world, and after the last one of a closing abort the
session is forgotten. -/
lemma advance_eq (t : Traffic) (a : Activity) (rest : Multiset Activity) :
    t.advance a rest
        = ⟨(a.advance t.world).1, Activity.after (a.advance t.world).2.call? rest⟩ ∨
      (a.advance t.world).2.call? = none ∧ a.closes ∧
        t.advance a rest = ⟨(a.advance t.world).1.forget a.session, rest⟩ := by
  rw [Traffic.advance]
  cases hp : (a.advance t.world).2.call? with
  | some b =>
    left
    simp [hp, Activity.after]
  | none =>
    by_cases hc : a.closes = true
    · right
      simp [hp, hc]
    · left
      simp [hp, hc, Activity.after]

/-- When a session is forgotten after a section, nothing else goes on in it, its records were swept,
and no query of it is active. -/
lemma Proper.closing (h : t.Proper) {a : Activity} {rest : Multiset Activity}
    (ha : t.underway = a ::ₘ rest) {s s' : Session} {w : World MemoryHost}
    (hs : t.world.session? a.session = some s) (hm : a.Move t.world s w s' none)
    (hc : a.closes) :
    Activity.ofSession a.session rest = 0 ∧ s'.active = none ∧
      ∀ k, k.session = a.session → w.service.status? k = none := by
  have hr := h.regular_cons ha hs
  have hma := Multiset.mem_cons_self a (Activity.ofSession a.session rest)
  have hsw := hm.closed hc
  refine ⟨?_, hm.active_eq_none (.inr hsw) (hr.vacant a hma hsw), fun k hk => hm.swept hsw rfl hk⟩
  exact ((Multiset.singleton_eq_cons_iff _).1 (hr.alone a hma hc).symm).2

lemma Proper.advance (h : t.Proper) {a : Activity} {rest : Multiset Activity}
    (ha : t.underway = a ::ₘ rest) : (t.advance a rest).Proper := by
  have hmem : a ∈ t.underway := by
    rw [ha]
    exact Multiset.mem_cons_self a rest
  obtain ⟨s, hs⟩ := h.session?_of_mem hmem
  obtain ⟨s', hm⟩ := Activity.move_advance hs
  have hp := h.move ha hs hm
  rcases t.advance_eq a rest with he | ⟨hn, hcl, he⟩
  · rw [he]
    exact hp
  · rw [hn] at hp hm
    rw [he]
    obtain ⟨hu, -, hk⟩ := h.closing ha hs hm hcl
    exact hp.forget hu hk

/-- A section of one session's activity concerns no other session, but for slots that its records
may be given. -/
lemma Proper.advance_elsewhere (h : t.Proper) {a : Activity} {rest : Multiset Activity}
    (ha : t.underway = a ::ₘ rest) {id : SessionId} (hne : id ≠ a.session) :
    (t.advance a rest).world.session? id = t.world.session? id ∧ ∀ k, k.session = id →
      MayAdmit (t.world.service.status? k) ((t.advance a rest).world.service.status? k) := by
  obtain ⟨s, hs⟩ := h.session?_of_mem (ha ▸ Multiset.mem_cons_self a rest)
  obtain ⟨s', hm⟩ := Activity.move_advance hs
  obtain ⟨-, -, hk⟩ := h.others ha hs hm hne
  rcases t.advance_eq a rest with he | ⟨-, -, he⟩
  · rw [he]
    exact ⟨hm.session?_ne hne, hk⟩
  · rw [he]
    refine ⟨?_, hk⟩
    show (World.forget _ _).session? id = _
    rw [World.session?_forget, if_neg hne]
    exact hm.session?_ne hne

lemma Proper.session?_new (h : t.Proper) :
    t.world.session? ⟨t.world.service.opened + 1⟩ = none := by
  rcases hs : t.world.session? ⟨t.world.service.opened + 1⟩ with _ | s
  · rfl
  · have hid := World.id_of_session? hs
    have hm : s.id ∈ t.world.ids := List.mem_map_of_mem (List.mem_of_find?_eq_some hs)
    have hle := h.numbered s.id hm
    rw [hid] at hle
    exact absurd hle (Nat.not_succ_le_self _)

lemma Proper.session?_openSession (h : t.Proper) (kind : Session.Kind) (id : SessionId) :
    (t.world.openSession kind).2.session? id
      = if id = ⟨t.world.service.opened + 1⟩ then
          some (.fresh ⟨t.world.service.opened + 1⟩ kind)
        else t.world.session? id := by
  show (t.world.sessions ++ [_]).find? _ = _
  rw [List.find?_append, List.find?_singleton]
  split_ifs with h₁ h₂ h₂
  · subst h₂
    rw [show t.world.sessions.find? _ = none from h.session?_new]
    rfl
  · exact absurd (of_decide_eq_true h₁).symm h₂
  · subst h₂
    exact absurd (decide_eq_true rfl) h₁
  · exact Option.or_none

lemma Proper.openSession (h : t.Proper) (kind : Session.Kind) :
    Proper ⟨(t.world.openSession kind).2, t.underway⟩ := by
  have hids : (t.world.openSession kind).2.ids
      = t.world.ids ++ [⟨t.world.service.opened + 1⟩] := by
    show (t.world.sessions ++ [_]).map _ = _
    rw [List.map_append]
    rfl
  refine ⟨h.sound.congr rfl rfl, ?_, ?_, ?_, ?_⟩
  · intro id hid
    show id.number ≤ t.world.service.opened + 1
    have hid : id ∈ (t.world.openSession kind).2.ids := hid
    rw [hids, List.mem_append, List.mem_singleton] at hid
    rcases hid with hid | rfl
    · exact Nat.le_succ_of_le (h.numbered id hid)
    · exact Nat.le_refl _
  · show (t.world.openSession kind).2.ids.Nodup
    rw [hids, List.nodup_append]
    refine ⟨h.distinct, List.nodup_singleton _, ?_⟩
    rintro id hid _ hid' rfl
    rw [List.mem_singleton] at hid'
    have hle := h.numbered id hid
    rw [hid'] at hle
    exact absurd hle (by simp)
  · intro id s hs
    have hs : (t.world.openSession kind).2.session? id = some s := hs
    rw [h.session?_openSession] at hs
    split_ifs at hs with hid
    · cases hs
      obtain ⟨hu, hk⟩ := h.absent _ h.session?_new
      subst hid
      show Regular _ _ (t.within _)
      rw [hu]
      exact .fresh _ kind hk
    · exact (h.present id s hs).elsewhere fun k _ => Status.MayAdmit.refl _
  · intro id hn
    have hn : (t.world.openSession kind).2.session? id = none := hn
    rw [h.session?_openSession] at hn
    split_ifs at hn with hid
    exact h.absent id hn

lemma Proper.begin (h : t.Proper) {a : Activity} (ha : a.isFresh)
    (hs : t.world.session? a.session ≠ none)
    (hb : ∀ b ∈ t.underway, b.session = a.session → a.closes = false ∧ b.closes = false) :
    Proper ⟨t.world, a ::ₘ t.underway⟩ := by
  refine ⟨h.sound, h.numbered, h.distinct, ?_, ?_⟩
  · intro id s hid
    show Regular t.world s (Activity.ofSession id (a ::ₘ t.underway))
    by_cases hne : a.session = id
    · rw [Activity.ofSession_cons hne]
      refine (h.present id s hid).begin ha ?_ fun b hm => ?_
      · rw [hne]
        exact (World.id_of_session? hid).symm
      · obtain ⟨hm, hms⟩ := Activity.mem_ofSession.1 hm
        exact hb b hm (hms.trans hne.symm)
    · rw [Activity.ofSession_cons_ne hne]
      exact h.present id s hid
  · intro id hn
    have hne : a.session ≠ id := by
      rintro rfl
      exact hs hn
    show Activity.ofSession id (a ::ₘ t.underway) = 0 ∧ _
    rw [Activity.ofSession_cons_ne hne]
    exact h.absent id hn

/-- Whatever happens keeps traffic proper. -/
lemma Proper.step (h : t.Proper) (hs : Step t e t') : t'.Proper := by
  cases hs with
  | opened kind => exact h.openSession kind
  | begun ha hs hb => exact h.begin ha hs hb
  | advanced ha => exact h.advance ha
  | raised signal =>
    cases signal with
    | session | token => exact h.congr rfl rfl rfl rfl
    | unshared => exact h
  | shutDown => exact h.congr rfl rfl rfl rfl
  | indexed index => exact h.congr rfl rfl rfl rfl

lemma Run.proper {t₀ : Traffic} (hp : t₀.Proper) (h : Run kind t₀ events t) : t.Proper := by
  induction h with
  | nil => exact hp
  | snoc _ hs _ ih => exact ih.step hs

lemma Run.oneByOne {t₀ : Traffic} (h₀ : t₀.underway = 0) (h : Run kind t₀ events t) :
    t.OneByOne kind := by
  cases h with
  | nil =>
    rw [OneByOne, h₀]
    exact Multiset.nodup_zero
  | snoc _ _ hd => exact hd

/-! ### Going on with one activity -/

/-- So many sections of an activity with nothing else between them, or all that are left. -/
def sections : Nat → World MemoryHost → Activity → World MemoryHost × Option Activity
  | 0, w, a => (w, some a)
  | n + 1, w, a =>
    match (a.advance w).2.call? with
    | some b => sections n (a.advance w).1 b
    | none => ((a.advance w).1, none)

/-- The activity as it stands before each of these sections. -/
def trail : Nat → World MemoryHost → Activity → List Activity
  | 0, _, _ => []
  | n + 1, w, a =>
    a :: match (a.advance w).2.call? with
    | some b => trail n (a.advance w).1 b
    | none => []

lemma OneByOne.after {w w' : World MemoryHost} {a : Activity} {a' : Option Activity}
    {rest : Multiset Activity} (hd : OneByOne kind ⟨w, a ::ₘ rest⟩)
    (h : ∀ b ∈ a', b.session = a.session ∧ (kind b → kind a)) :
    OneByOne kind ⟨w', Activity.after a' rest⟩ := by
  have hrest : ((rest.filter (kind ·)).map Activity.session).Nodup :=
    Multiset.nodup_of_le (Multiset.map_le_map (Multiset.filter_le_filter _
      (Multiset.le_cons_self rest a))) hd
  cases ha' : a' with
  | none => exact hrest
  | some b =>
    obtain ⟨hs, hk⟩ := h b ha'
    show (((b ::ₘ rest).filter (kind ·)).map Activity.session).Nodup
    by_cases hkb : kind b = true
    · rw [OneByOne, Multiset.filter_cons_of_pos (p := (kind · = true)) _ (hk hkb),
        Multiset.map_cons] at hd
      rwa [Multiset.filter_cons_of_pos (p := (kind · = true)) _ hkb, Multiset.map_cons, hs]
    · rwa [Multiset.filter_cons_of_neg (p := (kind · = true)) _ hkb]

lemma Run.begin {t₀ : Traffic} {w : World MemoryHost} {acts : Multiset Activity} {a : Activity}
    (h : Run kind t₀ events ⟨w, acts⟩) (ha : a.isFresh) (hs : w.session? a.session ≠ none)
    (hb : ∀ b ∈ acts, b.session = a.session → a.closes = false ∧ b.closes = false)
    (hd : OneByOne kind ⟨w, a ::ₘ acts⟩) :
    Run kind t₀ (events ++ [.begun a]) ⟨w, a ::ₘ acts⟩ :=
  h.snoc (.begun ha hs hb) hd

/-- A run may go on with one activity, of a sort that stays so and keeps the discipline. -/
lemma Run.sections {t₀ : Traffic} (hp : t₀.Proper) (h₀ : t₀.underway = 0)
    {sort : Activity → Prop}
    (hsort : ∀ (a b : Activity) (w : World MemoryHost), sort a →
      (a.advance w).2.call? = some b → sort b ∧ (kind b → kind a))
    (n : Nat) {w : World MemoryHost} {a : Activity} {rest : Multiset Activity} (ha : sort a)
    (hc : a.closes = false) (h : Run kind t₀ events ⟨w, a ::ₘ rest⟩) :
    Run kind t₀ (events ++ (trail n w a).map .advanced)
      ⟨(sections n w a).1, Activity.after (sections n w a).2 rest⟩ := by
  induction n generalizing w a events with
  | zero =>
    rw [trail, List.map_nil, List.append_nil]
    exact h
  | succ n ih =>
    obtain ⟨s, hs⟩ := (h.proper hp).session?_of_mem (Multiset.mem_cons_self a rest)
    obtain ⟨s', hm⟩ := Activity.move_advance hs
    have hd : OneByOne kind
        ⟨(a.advance w).1, Activity.after (a.advance w).2.call? rest⟩ := by
      apply (h.oneByOne h₀).after
      intro b hb
      exact ⟨(hm.same hb).1, (hsort a b w ha hb).2⟩
    have he := (Traffic.advance_eq ⟨w, a ::ₘ rest⟩ a rest).resolve_right fun hcl => by
      rw [hc] at hcl
      exact absurd hcl.2.1 Bool.false_ne_true
    have hrun := h.snoc (Step.advanced rfl) (he ▸ hd)
    rw [he] at hrun
    rw [Traffic.sections, trail]
    cases hb : (a.advance w).2.call? with
    | none =>
      rw [hb] at hrun
      exact hrun
    | some b =>
      rw [hb] at hrun
      have hmore := ih (hsort a b w ha hb).1 ((hm.same hb).2.1.trans hc) hrun
      rwa [List.append_assoc] at hmore

end Traffic

end QueryAdmission
