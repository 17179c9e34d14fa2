import QueryAdmission.Proofs.Coverage
import QueryAdmission.Proofs.Order

/-!
# Exclusion

As long as the reports of starts and ends do not overlap in any session, a session whose query is
active owns all tables that the survey of that query found (`Traffic.exclusion`). So two sessions
never both have an active query if the surveys found a common table. Aborts may come at any time,
and sessions may do what they like to each other.
-/

namespace QueryAdmission

namespace Traffic

/-- A start is at the end of its survey, and these are the tables that it found. -/
def Event.Finds (key : QueryKey) (tables : List TableId) : Event → Prop
  | .advanced a => a.Finds key tables
  | _ => False

/-- These are the tables that the survey for the key found, at one of the events. -/
def Found (events : List Event) (key : QueryKey) (tables : List TableId) : Prop :=
  ∃ e ∈ events, e.Finds key tables

/-- Traffic in which the locks of every session cover what was found for its queries. -/
structure Covering (found : QueryKey → List TableId → Prop) (t : Traffic) : Prop where
  numbered : ∀ k ts, found k ts → k.session.number ≤ t.world.service.opened
  present : ∀ id s, t.world.session? id = some s → Covered found s (t.within id)

variable {t t' t₀ : Traffic} {e : Event} {events : List Event} {w : World MemoryHost}
  {a : Activity} {a' : Option Activity} {rest : Multiset Activity} {s s' : Session}
  {found found' : QueryKey → List TableId → Prop} {index : ViewIndex}

lemma found_append {more : List Event} {key : QueryKey} {tables : List TableId} :
    Found (events ++ more) key tables ↔ Found events key tables ∨ Found more key tables := by
  simp [Found, or_and_right, exists_or]

lemma found_snoc (key : QueryKey) (tables : List TableId) :
    Found (events ++ [e]) key tables ↔ Found events key tables ∨ e.Finds key tables := by
  rw [found_append]
  simp [Found]

lemma covering_ofService (service : Service) (index : ViewIndex) :
    Covering (Found []) (ofService service index) := by
  constructor
  · rintro k ts ⟨e, he, -⟩
    cases he
  · intro id s hs
    cases hs

lemma Covering.congr (h : Covering found t) (hf : ∀ k ts, found' k ts ↔ found k ts)
    (hs : w.sessions = t.world.sessions) (ho : w.service.opened = t.world.service.opened) :
    Covering found' ⟨w, t.underway⟩ := by
  obtain rfl : found' = found := by
    funext k ts
    exact propext (hf k ts)
  constructor
  · intro k ts hk
    show _ ≤ w.service.opened
    rw [ho]
    exact h.numbered k ts hk
  · intro id s hid
    have hid : w.sessions.find? _ = some s := hid
    rw [hs] at hid
    exact h.present id s hid

lemma Covering.begin (h : Covering found t) (ha : a.isFresh) :
    Covering found ⟨t.world, a ::ₘ t.underway⟩ := by
  constructor
  · exact h.numbered
  · intro id s hid
    show Covered found s (Activity.ofSession id (a ::ₘ t.underway))
    by_cases hne : a.session = id
    · rw [Activity.ofSession_cons hne]
      exact (h.present id s hid).begin ha
    · rw [Activity.ofSession_cons_ne hne]
      exact h.present id s hid

lemma Covering.openSession (h : Covering found t) (ho : t.Ordered) (kind : Session.Kind) :
    Covering found ⟨(t.world.openSession kind).2, t.underway⟩ := by
  constructor
  · intro k ts hk
    exact Nat.le_succ_of_le (h.numbered k ts hk)
  · intro id s hs
    have hs : (t.world.openSession kind).2.session? id = some s := hs
    rw [ho.proper.session?_openSession] at hs
    split_ifs at hs with hid
    · cases hs
      subst hid
      show Covered found _ (t.within _)
      rw [(ho.absent _ ho.proper.session?_new).1]
      refine .fresh _ kind ?_
      intro k ts hk hks
      have hle := h.numbered k ts hk
      rw [hks] at hle
      exact absurd hle (Nat.not_succ_le_self _)
    · exact h.present id s hs

lemma Covering.forget (h : Covering found t) (id : SessionId) :
    Covering found ⟨t.world.forget id, t.underway⟩ := by
  constructor
  · exact h.numbered
  · intro other s hs
    have hs : (t.world.forget id).session? other = some s := hs
    rw [World.session?_forget] at hs
    split_ifs at hs
    exact h.present other s hs

/-- A section of one session's activity keeps all sessions covered. -/
lemma Covering.move (h : Covering found t) (ho : t.Ordered) (hd : t.OneByOne Activity.isReport)
    (ha : t.underway = a ::ₘ rest) (hs : t.world.session? a.session = some s)
    (hm : a.Move t.world s w s' a') (hf : ∀ k ts, found' k ts ↔ found k ts ∨ a.Finds k ts) :
    Covering found' ⟨w, Activity.after a' rest⟩ := by
  have hi := ho.inOrder_cons ha hs
  have hmem : a ∈ t.underway := by
    rw [ha]
    exact Multiset.mem_cons_self a rest
  have hid : s.id = a.session := World.id_of_session? hs
  have hfinds (k : QueryKey) (ts : List TableId) (hk : a.Finds k ts) : k.session = a.session :=
    ho.proper.session_eq hmem (Activity.mem_keys_of_finds hk)
  constructor
  · intro k ts hk
    show _ ≤ w.service.opened
    rw [hm.alike.2]
    rcases (hf k ts).1 hk with hk | hk
    · exact h.numbered k ts hk
    · rw [hfinds k ts hk, ← hid]
      exact ho.numbered s.id (List.mem_map_of_mem (List.mem_of_find?_eq_some hs))
  · intro id s₁ hs₁
    have hs₁ : w.session? id = some s₁ := hs₁
    show Covered found' s₁ (Activity.ofSession id (Activity.after a' rest))
    by_cases hne : id = a.session
    · subst hne
      rw [hm.session?_eq hs] at hs₁
      cases hs₁
      rw [Activity.ofSession_after fun b hb => (hm.same hb).1]
      have hc := h.present a.session s hs
      rw [within, ha, Activity.ofSession_cons rfl] at hc
      refine hc.advance hi hm (fun b hb hrep => ?_) hf
      obtain ⟨hb, hbs⟩ := Activity.mem_ofSession.1 hb
      exact hd.not_both ha hb hbs hrep
    · rw [hm.session?_ne hne] at hs₁
      rw [(ho.proper.others ha hs hm hne).1]
      apply (h.present id s₁ hs₁).elsewhere (ho.present id s₁ hs₁)
      intro k hk ts
      rw [hf]
      refine or_iff_left fun hk' => hne ?_
      rw [← hfinds k ts hk', hk]
      exact (World.id_of_session? hs₁).symm

lemma Covering.advance (h : Covering found t) (ho : t.Ordered) (hd : t.OneByOne Activity.isReport)
    (ha : t.underway = a ::ₘ rest) (hf : ∀ k ts, found' k ts ↔ found k ts ∨ a.Finds k ts) :
    Covering found' (t.advance a rest) := by
  have hmem : a ∈ t.underway := by
    rw [ha]
    exact Multiset.mem_cons_self a rest
  obtain ⟨s, hs⟩ := ho.proper.session?_of_mem hmem
  obtain ⟨s', hm⟩ := Activity.move_advance hs
  have hc := h.move ho hd ha hs hm hf
  rcases t.advance_eq a rest with he | ⟨hp, -, he⟩
  · rw [he]
    exact hc
  · rw [hp] at hc
    rw [he]
    exact hc.forget a.session

/-- Whatever happens keeps all sessions covered. -/
lemma Covering.step (h : Covering (Found events) t) (ho : t.Ordered)
    (hd : t.OneByOne Activity.isReport) (hs : Step t e t') :
    Covering (Found (events ++ [e])) t' := by
  have same (hn : ∀ k ts, ¬e.Finds k ts) (k : QueryKey) (ts : List TableId) :
      Found (events ++ [e]) k ts ↔ Found events k ts := by
    rw [found_snoc]
    exact or_iff_left (hn k ts)
  cases hs with
  | advanced ha => exact h.advance ho hd ha found_snoc
  | opened kind =>
    have hc := h.congr (same fun _ _ => id) rfl rfl
    exact hc.openSession ho kind
  | begun ha =>
    have hc := h.congr (same fun _ _ => id) rfl rfl
    exact hc.begin ha
  | raised signal =>
    refine h.congr (same fun _ _ => id) ?_ ?_
    · cases signal <;> rfl
    · cases signal <;> rfl
  | shutDown => exact h.congr (same fun _ _ => id) rfl rfl
  | indexed => exact h.congr (same fun _ _ => id) rfl rfl

lemma Run.covering (ho : t₀.Ordered) (h₀ : t₀.underway = 0) (hc : Covering (Found []) t₀)
    (h : Run Activity.isReport t₀ events t) : t.Ordered ∧ Covering (Found events) t := by
  have hk (a : Activity) (ha : a.isStart) : a.isReport := by simp [Activity.isReport, ha]
  induction h with
  | nil => exact ⟨ho, hc⟩
  | snoc h hs _ ih => exact ⟨ih.1.step (h.oneByOne h₀) hk hs, ih.2.step ih.1 (h.oneByOne h₀) hs⟩

/-! ### What surveys find -/

/-- While the index does not change, all surveys go by it. -/
structure Surveying (index : ViewIndex) (t : Traffic) : Prop where
  index_eq : t.world.host.index = index
  surveys : ∀ a ∈ t.underway, a.Surveys index

lemma Surveying.advance (h : Surveying index t) (ho : t.Ordered) (ha : t.underway = a ::ₘ rest) :
    Surveying index (t.advance a rest) := by
  have hmem : a ∈ t.underway := by
    rw [ha]
    exact Multiset.mem_cons_self a rest
  obtain ⟨s, hs⟩ := ho.proper.session?_of_mem hmem
  obtain ⟨s', hm⟩ := Activity.move_advance hs
  have hkept : ∀ b ∈ rest, b.Surveys index := fun b hb => by
    refine h.surveys b ?_
    rw [ha]
    exact Multiset.mem_cons_of_mem hb
  have hi := hm.index_eq.trans h.index_eq
  rcases t.advance_eq a rest with he | ⟨-, -, he⟩
  · rw [he]
    refine ⟨hi, fun b hb => ?_⟩
    rcases Activity.mem_after.1 hb with hb | hb
    · have hsa := h.surveys a hmem
      rw [← h.index_eq] at hsa ⊢
      exact hm.surveys hsa hb
    · exact hkept b hb
  · rw [he]
    exact ⟨hi, hkept⟩

lemma Surveying.step (h : Surveying index t) (ho : t.Ordered) (hs : Step t e t')
    (he : ∀ x, e ≠ .indexed x) : Surveying index t' := by
  cases hs with
  | advanced ha => exact h.advance ho ha
  | opened => exact ⟨h.index_eq, h.surveys⟩
  | @begun a ha =>
    refine ⟨h.index_eq, fun b hb => ?_⟩
    rcases Multiset.mem_cons.1 hb with rfl | hb
    · cases b with
      | start c executes =>
        intro key vs tables hp
        rw [Activity.isFresh_start.1 ha] at hp
        cases hp
      | entering | inside | finish | abort | utility => trivial
    · exact h.surveys b hb
  | raised signal =>
    cases signal with
    | session | token | unshared => exact ⟨h.index_eq, h.surveys⟩
  | shutDown => exact ⟨h.index_eq, h.surveys⟩
  | indexed x => exact absurd rfl (he x)

/-- While the index does not change, surveys find what the query's views depend on. -/
lemma Run.surveying (ho : t₀.Ordered) (h₀ : t₀.underway = 0)
    (h : Run Activity.isReport t₀ events t) (hi : ∀ x, .indexed x ∉ events) :
    Surveying t₀.world.host.index t ∧
      ∀ c executes k ts, .advanced (.start c executes) ∈ events → c.Finds k ts →
        ts = dependencySet t₀.world.host.index.dependencies c.query.affected := by
  have hk (a : Activity) (ha : a.isStart) : a.isReport := by simp [Activity.isReport, ha]
  induction h with
  | nil =>
    refine ⟨⟨rfl, ?_⟩, ?_⟩
    · intro a ha
      rw [h₀] at ha
      exact absurd ha (Multiset.notMem_zero a)
    · intro c executes k ts he
      cases he
  | @snoc events t t' e h hs _ ih =>
    obtain ⟨hsur, hfind⟩ := ih fun x hx => hi x (List.mem_append_left _ hx)
    refine ⟨hsur.step (h.ordered ho h₀ hk) hs fun x hx => hi x (by simp [hx]), ?_⟩
    intro c executes k ts he hc
    rcases List.mem_append.1 he with he | he
    · exact hfind c executes k ts he hc
    · cases List.mem_singleton.1 he
      cases hs with
      | advanced ha =>
        refine hsur.surveys (.start c executes) ?_ k [] ts hc
        rw [ha]
        exact Multiset.mem_cons_self _ _

/-- After any run in which the reports of starts and ends do not overlap in any session, while
aborts, executions and utility commands come and go as they like: a session with an active query
owns every table that the survey of the query found, so that two sessions with active queries have
no table in common. What a survey finds is the dependency set of the query's views, unless the index
changes. -/
theorem exclusion {settings : Settings} {service : Service}
    (hb : Service.build settings = .ok service)
    (hrun : Run Activity.isReport (ofService service index) events t) :
    (∀ s ∈ t.world.sessions, ∀ q, s.active = some q →
        (∃ ts, Found events q.key ts) ∧
          ∀ ts, Found events q.key ts → ∀ u ∈ ts, t.world.host.locks.owner u = some s.id) ∧
      (∀ s₁ ∈ t.world.sessions, ∀ s₂ ∈ t.world.sessions, s₁ ≠ s₂ → ∀ q₁ q₂,
        s₁.active = some q₁ → s₂.active = some q₂ → ∀ ts₁ ts₂,
          Found events q₁.key ts₁ → Found events q₂.key ts₂ → ts₁.Disjoint ts₂) ∧
      ((∀ x, .indexed x ∉ events) →
        ∀ c executes k ts, .advanced (.start c executes) ∈ events → c.Finds k ts →
          ts = dependencySet index.dependencies c.query.affected) := by
  have h₀ := ordered_ofService hb index
  obtain ⟨ho, hc⟩ := hrun.covering h₀ rfl (covering_ofService service index)
  have covered (s : Session) (hs : s ∈ t.world.sessions) (q : ActiveQuery)
      (hq : s.active = some q) : Covers (Found events) q.key q.locked :=
    (hc.present s.id s (ho.proper.session?_eq_some.2 ⟨hs, rfl⟩)).active q hq
  have owns (s : Session) (hs : s ∈ t.world.sessions) (q : ActiveQuery) (hq : s.active = some q)
      (ts : List TableId) (hts : Found events q.key ts) (u : TableId) (hu : u ∈ ts) :
      t.world.host.locks.owner u = some s.id := by
    apply (ho.of_mem hs).owns_locked
    simpa [Session.lockedTables, hq] using (covered s hs q hq).2 ts hts hu
  refine ⟨fun s hs q hq => ⟨(covered s hs q hq).1, owns s hs q hq⟩, ?_, ?_⟩
  · intro s₁ hs₁ s₂ hs₂ hne q₁ q₂ hq₁ hq₂ ts₁ ts₂ hts₁ hts₂ u hu₁ hu₂
    have ho₁ := owns s₁ hs₁ q₁ hq₁ ts₁ hts₁ u hu₁
    have ho₂ := owns s₂ hs₂ q₂ hq₂ ts₂ hts₂ u hu₂
    rw [ho₁] at ho₂
    exact hne (List.inj_on_of_nodup_map ho.distinct hs₁ hs₂ (Option.some.inj ho₂))
  · exact fun hi => (hrun.surveying h₀ rfl hi).2

/-- Two queries need the table 20: the first one runs, and the second one has retreated and waits.
-/
theorem exclusion_retreat :
    let service := Service.ofSettings ⟨2, 4, 4, .ofNanos 30000⟩
    let index := (ViewIndex.empty.register 1 [10, 20]).register 2 [20, 30]
    ∃ events t, Run Activity.isReport (ofService service index) events t ∧
      Found events ⟨1, 1⟩ [10, 20] ∧ Found events ⟨2, 1⟩ [20, 30] ∧
      (∀ u ∈ ([10, 20] : List TableId), t.world.host.locks.owner u = some 1) ∧
      t.world.service.status? ⟨1, 1⟩ = some .running ∧
      t.world.service.status? ⟨2, 1⟩ = some .waiting := by
  intro service index
  let first : Activity := .start (.ofQuery 1 ⟨"select", 7, [1], false, false⟩) false
  let second : Activity := .start (.ofQuery 2 ⟨"select", 8, [2], false, false⟩) false
  have hb : Service.build ⟨2, 4, 4, .ofNanos 30000⟩ = .ok service := rfl
  have hk (a : Activity) (ha : a.isStart) : a.isReport := by simp [Activity.isReport, ha]
  have hsort (a b : Activity) (w : World MemoryHost) (ha : ∃ c, a = .start c false)
      (h : (a.advance w).2.call? = some b) :
      (∃ c, b = .start c false) ∧ (b.isReport → a.isReport) := by
    obtain ⟨c, rfl⟩ := ha
    obtain ⟨c', rfl, -⟩ := Activity.exists_start_of_advance h
    exact ⟨⟨c', rfl⟩, fun _ => rfl⟩
  have ho := ordered_ofService hb index
  let opened := (((ofService service index).world.openSession .backend).2.openSession .backend).2
  have h₁ : Run Activity.isReport (ofService service index) _ ⟨opened, 0⟩ :=
    .snoc (.snoc .nil (.opened .backend) (by decide +kernel)) (.opened .backend) (by decide +kernel)
  have h₂ := h₁.begin (a := first) rfl (by decide) (by simp) (by decide)
  have h₃ := h₂.sections ho.proper rfl hsort 12 ⟨_, rfl⟩ rfl
  let started := sections 12 opened first
  have hdone : started.2 = none := by decide +kernel
  change Run _ _ _ ⟨started.1, Activity.after started.2 0⟩ at h₃
  rw [hdone] at h₃
  have h₄ := h₃.begin (a := second) rfl (by decide +kernel) (by simp) (by decide +kernel)
  have h₅ := h₄.sections ho.proper rfl hsort 12 ⟨_, rfl⟩ rfl
  let s : Session := ⟨1, .backend, 0, false, 1, some ⟨⟨1, 1⟩, [10, 20]⟩, false⟩
  let retreated := sections 12 started.1 second
  have hs : s ∈ retreated.1.sessions := by decide +kernel
  have hrunning : retreated.1.service.status? ⟨1, 1⟩ = some .running := by decide +kernel
  have hwaiting : retreated.1.service.status? ⟨2, 1⟩ = some .waiting := by decide +kernel
  have hfirst : .start ⟨1, ⟨"select", 7, [1], false, false⟩, .surveying ⟨1, 1⟩ ⟨[], [10, 20]⟩⟩ false
      ∈ trail 12 opened first := by
    decide +kernel
  have hsecond : .start ⟨2, ⟨"select", 8, [2], false, false⟩, .surveying ⟨2, 1⟩ ⟨[], [20, 30]⟩⟩ false
      ∈ trail 12 started.1 second := by
    decide +kernel
  let before := [.opened .backend, .opened .backend, .begun first]
    ++ (trail 12 opened first).map Event.advanced
  let after := (trail 12 started.1 second).map Event.advanced
  change Run _ _ (before ++ [.begun second] ++ after) ⟨retreated.1, _⟩ at h₅
  have hfound₁ : Found (before ++ [.begun second] ++ after) ⟨1, 1⟩ [10, 20] := by
    rw [found_append, found_append]
    exact .inl (.inl (found_append.2 (.inr ⟨_, List.mem_map_of_mem hfirst, rfl⟩)))
  have hfound₂ : Found (before ++ [.begun second] ++ after) ⟨2, 1⟩ [20, 30] :=
    found_append.2 (.inr ⟨_, List.mem_map_of_mem hsecond, rfl⟩)
  clear_value retreated started opened
  have howns := ((exclusion hb h₅).1 s hs _ rfl).2 [10, 20] hfound₁
  exact ⟨_, _, h₅, hfound₁, hfound₂, howns, hrunning, hwaiting⟩

end Traffic

end QueryAdmission
