import QueryAdmission.Proofs.InOrder

/-!
# What a session's locks cover

A start surveys the tables of its query and then locks them. From the survey on, the tables that are
in its hands and those that it has still to come to cover what the survey found (`Start.Covered`),
and once the query is active, its locked tables do. A lock pass passes over tables that its session
owns already; these are in its own hands, because a start that has entered its session shares it
with nobody who holds tables (`InOrder.mem_taken`).

What surveys found is a relation `found` between keys and lists of tables here, which grows when a
start comes to the end of its survey.
-/

namespace QueryAdmission

/-! ### Lock passes -/

namespace LockPass

variable {s : SessionId} {l l' : LockTable} {p p' : LockPass} {tables : List TableId}

/-- The tables in the hands of a pass, with those before it, cover these. A pass that was refused is
excused. -/
def Covers (tables : List TableId) : LockPass → Prop
  | asking t left taken | attempting t left taken => tables ⊆ taken ++ t :: left
  | took locked => tables ⊆ locked
  | undoing _ _ _ | refusedAt _ => True

lemma covers_proceed {left taken : List TableId} (h : tables ⊆ taken ++ left) :
    (proceed left taken).Covers tables := by
  cases left with
  | nil =>
    intro u hu
    rw [List.mem_reverse]
    simpa using h hu
  | cons t left => exact h

lemma covers_undo (t : TableId) (taken : List TableId) : (undo t taken).Covers tables := by
  cases taken <;> trivial

/-- A table that is passed over is in the hands of the pass. -/
lemma Contact.covers (h : Contact s l p l' p') (hp : p.Covers tables)
    (ho : ∀ u, l.owner u = some s → u ∈ p.taken) : p'.Covers tables := by
  cases h with
  | @skipped t left taken ht =>
    have hmem : t ∈ taken := ho t ht
    apply covers_proceed
    intro u hu
    rcases List.mem_append.1 (hp hu) with hu | hu
    · exact List.mem_append_left left hu
    · rcases List.mem_cons.1 hu with rfl | hu
      · exact List.mem_append_left left hmem
      · exact List.mem_append_right taken hu
  | asked => exact hp
  | @locked t left taken =>
    apply covers_proceed
    intro u hu
    have hu := hp hu
    simp only [List.mem_append, List.mem_cons] at hu ⊢
    tauto
  | refused => exact covers_undo _ _
  | returned => exact covers_undo _ _

end LockPass

/-! ### Admissions -/

namespace Admission

variable {w w' : World MemoryHost} {a a' : Admission}
  {p : Progress Admission (Except Refusal (List TableId))}

/-- The lock pass of an admission covers the admission's tables. -/
def Covers (a : Admission) : Prop := ∀ pass, a.phase = .locking pass → pass.Covers a.tables

lemma Move.covers (h : Move w a w' p) (ha : a.Covers)
    (ho : ∀ u, w.host.locks.owner u = some a.key.session → u ∈ a.taken) (hp : p.call? = some a') :
    a'.Covers := by
  intro pass hpass
  cases h with
  | gone | departed | began | failed => cases hp
  | queued | called | slept | lost | retreated | returned =>
    cases hp
    cases hpass
  | granted =>
    cases hp
    obtain rfl := Phase.locking.inj hpass
    exact LockPass.covers_proceed (List.Subset.refl _)
  | @contact q q' locks hq hc =>
    cases hp
    obtain rfl := Phase.locking.inj hpass
    apply hc.covers (ha q hq)
    intro u hu
    have hm := ho u hu
    rwa [taken, hq] at hm

/-- The result of an admission covers its tables. -/
lemma Move.subset_of_done {locked : List TableId} (h : Move w a w' (.done (.ok locked)))
    (ha : a.Covers) : a.tables ⊆ locked := by
  cases h with
  | began hp => exact ha _ hp

end Admission

/-! ### Starts -/

/-- The tables cover what was found for the key, and something was. -/
def Covers (found : QueryKey → List TableId → Prop) (key : QueryKey) (tables : List TableId) :
    Prop :=
  (∃ ts, found key ts) ∧ ∀ ts, found key ts → ts ⊆ tables

namespace Start

variable {w w' : World MemoryHost} {s s' : Session} {c c' : Start}
  {p : Progress Start (Except Refusal (Option QueryKey))}
  {found found' : QueryKey → List TableId → Prop}

/-- The start is at the end of its survey, and these are the tables that it found. -/
def Finds (c : Start) (key : QueryKey) (tables : List TableId) : Prop :=
  c.phase = .surveying key ⟨[], tables⟩

/-- A start whose locks cover what was found for its key. Before its registration, nothing was. -/
def Covered (found : QueryKey → List TableId → Prop) (c : Start) : Prop :=
  match c.phase with
  | .entering | .undoing _ _ => True
  | .finishing key _ _ | .surveying key _ => ∀ ts, ¬found key ts
  | .admitting key a => found key a.tables ∧ (∀ ts, found key ts → ts = a.tables) ∧ a.Covers
  | .checking key locked | .installing key locked => Covers found key locked

/-- Whether a start is covered depends on what was found for its keys only. -/
lemma Covered.congr (hc : c.Covered found)
    (h : ∀ k ∈ c.keys, ∀ ts, found' k ts ↔ found k ts) : c.Covered found' := by
  rw [Covered] at hc ⊢
  rw [keys] at h
  split at hc
  · trivial
  · trivial
  · next key stale left hp =>
    rw [hp] at h
    simpa only [h key (by simp)] using hc
  · next key survey hp =>
    rw [hp] at h
    simpa only [h key (by simp)] using hc
  · next key a hp =>
    rw [hp] at h
    simpa only [h key (by simp)] using hc
  · next key locked hp =>
    rw [hp] at h
    simpa only [Covers, h key (by simp)] using hc
  · next key locked hp =>
    rw [hp] at h
    simpa only [Covers, h key (by simp)] using hc

lemma mem_keys_of_finds {key : QueryKey} {tables : List TableId} (h : c.Finds key tables) :
    key ∈ c.keys := by
  rw [Finds] at h
  simp [keys, h]

/-- A start stays covered. What it finds comes to be what was found for its key, for which nothing
was found before. -/
lemma Move.covered (h : Move w s c w' s' p) (hc : c.Covered found) (hcoh : c.Coherent)
    (hfound : ∀ k ts, found' k ts ↔ found k ts ∨ c.Finds k ts) (hn : ∀ ts, ¬found' s.nextKey ts)
    (ho : c.phase ≠ .entering → ∀ u, w.host.locks.owner u = some c.session → u ∈ c.taken)
    (hp : p.call? = some c') : c'.Covered found' := by
  have same (hq : ∀ key tables, c.phase ≠ .surveying key ⟨[], tables⟩) : found' = found := by
    funext k ts
    simp [hfound, Finds, hq]
  rw [Covered] at hc
  cases h with
  | ignored | refused | installed | failed => cases hp
  | barred hq =>
    cases hp
    rcases hq with hq | ⟨key, locked, hq⟩
    · rw [Covered, hq]
      trivial
    · rw [same (by simp [hq])]
      rw [Covered]
      rwa [hq] at hc ⊢
  | entered =>
    cases hp
    rcases s.active with _ | stale
    · exact hn
    · exact hn
  | returned hq | finished hq | asked hq =>
    cases hp
    rw [same (by simp [hq])]
    rw [hq] at hc
    exact hc
  | @registered key tables record service hq =>
    cases hp
    rw [hq] at hc
    have hf (ts : List TableId) : found' key ts ↔ ts = tables := by
      rw [hfound, Finds, hq]
      constructor
      · rintro (hk | hk)
        · exact absurd hk (hc ts)
        · cases hk
          rfl
      · rintro rfl
        exact .inr rfl
    refine ⟨(hf tables).2 rfl, fun ts hts => (hf ts).1 hts, ?_⟩
    intro pass hpass
    cases hpass
  | @admission key a p w' hq hm =>
    rw [same (by simp [hq])]
    rw [hq] at hc
    obtain ⟨hfnd, huniq, hcov⟩ := hc
    have hown (u : TableId) (hu : w.host.locks.owner u = some a.key.session) : u ∈ a.taken := by
      rw [hcoh.native.session_admission hq] at hu
      have hmem := ho (by simp [hq]) u hu
      rwa [taken, hq] at hmem
    have goes (a' : Admission) (ha' : p.call? = some a') :
        Covered found (c.inPhase (.admitting key a')) := by
      have ht := (hm.same ha').2
      refine ⟨?_, ?_, hm.covers hcov hown ha'⟩
      · rwa [ht]
      · rwa [ht]
    rcases p with a' | a' | (r | locked)
    · cases hp
      exact goes a' rfl
    · cases hp
      exact goes a' rfl
    · cases hp
    · cases hp
      refine ⟨⟨_, hfnd⟩, fun ts hts => ?_⟩
      rw [huniq ts hts]
      exact hm.subset_of_done hcov
  | approved hq =>
    cases hp
    rw [same (by simp [hq])]
    rw [hq] at hc
    exact hc
  | denied | unlocked =>
    cases hp
    trivial

/-- What a start has found, with what the views that it has not asked about depend on, is what the
query's views depend on. -/
def Surveys (index : ViewIndex) (c : Start) : Prop :=
  ∀ key vs tables, c.phase = .surveying key ⟨vs, tables⟩ →
    vs.foldl (fun tables v => addTables tables (index.dependencies v)) tables
      = dependencySet index.dependencies c.query.affected

lemma Move.surveys (h : Move w s c w' s' p) (hc : c.Surveys w.host.index)
    (hp : p.call? = some c') : c'.Surveys w.host.index := by
  intro key vs tables hphase
  cases h with
  | ignored | refused | installed | failed => cases hp
  | barred =>
    cases hp
    exact hc key vs tables hphase
  | entered =>
    cases hp
    rcases hs : s.active with _ | stale
    · rw [hs] at hphase
      cases hphase
      rfl
    · rw [hs] at hphase
      cases hphase
  | finished =>
    cases hp
    cases hphase
    rfl
  | @asked key v vs tables hq =>
    cases hp
    cases hphase
    exact hc key (v :: vs) tables hq
  | returned | registered | unlocked | approved | denied =>
    cases hp
    cases hphase
  | @admission key a p =>
    rcases p with a' | a' | (r | locked) <;> cases hp <;> cases hphase

lemma Move.index_eq (h : Move w s c w' s' p) : w'.host.index = w.host.index := by
  cases h with
  | admission _ hm => cases hm <;> rfl
  | barred | ignored | entered | returned | finished | asked | registered | refused | unlocked
  | approved | denied | installed | failed => rfl

lemma Move.guarded_eq_false (h : Move w s c w' s' p) (he : c.phase = .entering)
    (hp : p.call? = some c') (hn : c'.phase ≠ .entering) : s.guarded = false := by
  cases h with
  | barred =>
    cases hp
    exact absurd he hn
  | entered _ hg => exact hg
  | ignored => cases hp
  | returned hq | finished hq | asked hq | registered hq | refused hq | admission hq | approved hq
  | denied hq | installed hq | unlocked hq | failed hq =>
    rw [he] at hq
    cases hq

end Start

/-! ### Sessions -/

namespace Activity

variable {w w' : World MemoryHost} {s s' : Session} {a b : Activity} {a' : Option Activity}

/-- Whether it is the report of a start or of an end. -/
def isReport (a : Activity) : Bool := a.isStart || a.isFinish

/-- It is a start that is at the end of its survey, and these are the tables that it found. -/
def Finds (key : QueryKey) (tables : List TableId) : Activity → Prop
  | start c _ => c.Finds key tables
  | _ => False

lemma mem_keys_of_finds {key : QueryKey} {tables : List TableId} (h : a.Finds key tables) :
    key ∈ a.keys := by
  cases a with
  | start c executes => exact Start.mem_keys_of_finds h
  | entering | inside | finish | abort | utility => exact h.elim

/-- A query that comes to be active is installed by a start. -/
lemma Move.installs (h : Move w s a w' s' a') {q : ActiveQuery} (hq : s'.active = some q) :
    s.active = some q ∨
      ∃ c executes, a = Activity.start c executes ∧ c.phase = .installing q.key q.locked := by
  cases h with
  | @start c executes w' s' p h =>
    cases h with
    | entered => cases hq
    | installed hp =>
      cases hq
      exact .inr ⟨c, executes, rfl, hp⟩
    | barred | ignored | returned | finished | asked | registered | refused | unlocked | admission
    | approved | denied | failed => exact .inl hq
  | finish h =>
    cases h with
    | took => cases hq
    | barred | idle | returned | completed => exact .inl hq
  | abort h =>
    cases h with
    | took => cases hq
    | barred | returned | swept => exact .inl hq
  | bracket _ _ hf =>
    obtain ⟨n, v, h⟩ := hf s
    rw [h] at hq
    exact .inl hq

/-- What neither is the report of a start or of an end nor has the session guarded has no tables in
its hands. -/
lemma taken_of_not_guards (ha : a.isReport = false) (hg : a.guards = 0) : a.taken = [] := by
  cases a with
  | start | finish => cases ha
  | entering | inside | utility => rfl
  | abort c closes =>
    rcases hp : c.phase with _ | left
    · simp [taken, Abort.taken, hp]
    · simp [guards, Abort.guards, hp] at hg

lemma Move.index_eq (h : Move w s a w' s' a') : w'.host.index = w.host.index := by
  cases h with
  | start h => exact h.index_eq
  | finish h => cases h <;> rfl
  | abort h => cases h <;> rfl
  | bracket => rfl

/-- It surveys rightly, if it is a start. -/
def Surveys (index : ViewIndex) : Activity → Prop
  | start c _ => c.Surveys index
  | _ => True

lemma Move.surveys (h : Move w s a w' s' a') (ha : a.Surveys w.host.index) (hb : b ∈ a') :
    b.Surveys w.host.index := by
  cases h with
  | start h =>
    obtain ⟨c', hc', rfl⟩ | ⟨key, rfl⟩ := mem_ofStart hb
    · exact h.surveys ha hc'
    · trivial
  | finish =>
    obtain ⟨c', -, rfl⟩ := mem_ofCall hb
    trivial
  | abort =>
    obtain ⟨c', -, rfl⟩ := mem_ofCall hb
    trivial
  | bracket _ ha' =>
    have hl := (ha' b hb).1.isStart
    cases b with
    | start => cases hl
    | entering | inside | finish | abort | utility => trivial

/-- A start comes of a start, by a section of it. -/
lemma Move.of_start {c : Start} {executes : Bool} (h : Move w s a w' s' a')
    (hc : .start c executes ∈ a') :
    ∃ c₀ executes₀ p, a = Activity.start c₀ executes₀ ∧ c₀.Move w s w' s' p ∧
      p.call? = some c := by
  cases h with
  | @start c₀ executes₀ w' s' p h =>
    obtain ⟨c', hc', heq⟩ | ⟨key, heq⟩ := mem_ofStart hc
    · cases heq
      exact ⟨c₀, executes, p, rfl, h, hc'⟩
    · cases heq
  | finish =>
    obtain ⟨c', -, heq⟩ := mem_ofCall hc
    cases heq
  | abort =>
    obtain ⟨c', -, heq⟩ := mem_ofCall hc
    cases heq
  | bracket _ ha' =>
    have hl := (ha' _ hc).1.isStart
    cases hl

/-- Where no query is active, an abort finds no tables. -/
lemma Move.taken_eq_nil (h : Move w s a w' s' a') (hs : s.active = none) (ha : a.taken = [])
    (hb : b ∈ a') (hr : b.isReport = false) : b.taken = [] := by
  cases h with
  | start h =>
    obtain ⟨c', -, rfl⟩ | ⟨key, rfl⟩ := mem_ofStart hb
    · cases hr
    · rfl
  | finish h =>
    obtain ⟨c', -, rfl⟩ := mem_ofCall hb
    cases hr
  | @abort c closes w' s' p h =>
    obtain ⟨c', hc', rfl⟩ := mem_ofCall hb
    cases h with
    | barred =>
      cases hc'
      exact ha
    | took =>
      cases hc'
      simp [taken, Abort.taken, Session.lockedTables, hs]
    | returned hp => simp [taken, Abort.taken, hp] at ha
    | swept => cases hc'
  | bracket _ ha' => exact (ha' b hb).1.taken

end Activity

/-- A session whose locks cover what was found for its queries. As long as a start has entered the
session, and is no longer about to, nothing but reports of starts and ends has tables in its
hands. -/
structure Covered (found : QueryKey → List TableId → Prop) (s : Session)
    (acts : Multiset Activity) : Prop where
  starts : ∀ c executes, Activity.start c executes ∈ acts → c.Covered found
  active : ∀ q, s.active = some q → Covers found q.key q.locked
  idle : ∀ c executes, Activity.start c executes ∈ acts → c.phase ≠ .entering →
    ∀ b ∈ acts, b.isReport = false → b.taken = []
  used : ∀ k ts, found k ts → k.session = s.id → k.sequence ≤ s.sequence

variable {w w' : World MemoryHost} {s s' : Session} {acts rest : Multiset Activity}
  {a : Activity} {a' : Option Activity} {c : Start} {executes : Bool} {u : TableId}
  {found found' : QueryKey → List TableId → Prop}

/-- A start that has entered its session, beside which nobody has tables in his hands, has all
tables that the session owns in its own. -/
lemma InOrder.mem_taken (h : InOrder w s (.start c executes ::ₘ rest)) (hp : c.phase ≠ .entering)
    (hr : ∀ b ∈ rest, b.taken = []) (hu : w.host.locks.owner u = some s.id) : u ∈ c.taken := by
  have hv : s.active = none := (h.fitsSession _ (Multiset.mem_cons_self _ rest)).vacant hp
  have hs := h.share_eq u
  rw [Session.lockedTables_of_none hv, Multiset.map_cons, Multiset.sum_cons,
    Activity.sum_count_taken hr] at hs
  have hpos := LockTable.share_pos.2 hu
  rw [hs] at hpos
  have hmem : u ∈ (Activity.start c executes).taken := by simpa using hpos
  exact hmem

lemma Covers.congr {key : QueryKey} {tables : List TableId} (h : Covers found key tables)
    (hf : ∀ ts, found' key ts ↔ found key ts) : Covers found' key tables := by
  simpa only [Covers, hf] using h

namespace Covered

/-! ### Sections of the session's own activities -/

section Advance

variable (h : Covered found s (a ::ₘ rest)) (hi : InOrder w s (a ::ₘ rest))
  (hm : a.Move w s w' s' a') (hr : ∀ b ∈ rest, a.isReport → b.isReport = false)
  (hfound : ∀ k ts, found' k ts ↔ found k ts ∨ a.Finds k ts)

include hfound

/-- What was found for the keys of others stays so. -/
lemma found_iff {k : QueryKey} (hk : k ∉ a.keys) (ts : List TableId) :
    found' k ts ↔ found k ts := by
  rw [hfound]
  constructor
  · rintro (hf | hf)
    · exact hf
    · exact absurd (Activity.mem_keys_of_finds hf) hk
  · exact .inl

include h hi

lemma not_found_nextKey (ts : List TableId) : ¬found' s.nextKey ts := by
  have hk : s.nextKey ∉ a.keys := by
    intro hk
    have hle : s.sequence + 1 ≤ s.sequence :=
      (hi.regular.bounded_of_mem (Multiset.mem_cons_self a rest) hk).2
    exact absurd hle (Nat.not_succ_le_self _)
  rw [found_iff hfound hk]
  intro hf
  have hle : s.sequence + 1 ≤ s.sequence := h.used _ ts hf rfl
  exact absurd hle (Nat.not_succ_le_self _)

include hm

lemma advance_used (k : QueryKey) (ts : List TableId) (hf : found' k ts) (hk : k.session = s'.id) :
    k.sequence ≤ s'.sequence := by
  rw [hm.id_eq] at hk
  have hle : k.sequence ≤ s.sequence := by
    rcases (hfound k ts).1 hf with hf | hf
    · exact h.used k ts hf hk
    · have hka := Activity.mem_keys_of_finds hf
      exact (hi.regular.bounded_of_mem (Multiset.mem_cons_self a rest) hka).2
  rcases hm.keys_le with ⟨-, hs⟩ | ⟨-, hs⟩
  · rwa [hs]
  · rw [hs]
    exact Nat.le_succ_of_le hle

lemma advance_active (q : ActiveQuery) (hq : s'.active = some q) :
    Covers found' q.key q.locked := by
  have ha := Multiset.mem_cons_self a rest
  rcases hm.installs hq with hq | ⟨c, executes, rfl, hp⟩
  · have hk : q.key ∈ s.keys := Session.mem_keys.2 ⟨q.locked, hq⟩
    exact (h.active q hq).congr (found_iff hfound (hi.regular.notMem_keys hk))
  · have hc := h.starts c executes ha
    rw [Start.Covered, hp] at hc
    apply hc.congr
    intro ts
    rw [hfound]
    apply or_iff_left
    intro hf
    rw [Activity.Finds, Start.Finds, hp] at hf
    cases hf

include hr

lemma advance_starts (c : Start) (executes : Bool)
    (hc : .start c executes ∈ Activity.after a' rest) : c.Covered found' := by
  have ha := Multiset.mem_cons_self a rest
  rcases Activity.mem_after.1 hc with hb | hb
  · obtain ⟨c₀, e, p, rfl, hm, hc⟩ := hm.of_start hb
    have hown : c₀.session = s.id := hi.own _ ha
    refine hm.covered (h.starts c₀ _ ha) (hi.fitsSession _ ha).coherent hfound
      (h.not_found_nextKey hi hfound) (fun hp u hu => ?_) hc
    rw [hown] at hu
    refine hi.mem_taken hp (fun b hb => ?_) hu
    exact h.idle c₀ _ ha hp b (Multiset.mem_cons_of_mem hb) (hr b hb rfl)
  · have hkept := h.starts c executes (Multiset.mem_cons_of_mem hb)
    exact hkept.congr fun k hk => found_iff hfound (hi.regular.notMem_keys_of_mem hb hk)

omit hfound

/-- A start enters its session when no abort has tables in its hands, and after that an abort finds
none. -/
lemma advance_idle (c : Start) (executes : Bool)
    (hc : .start c executes ∈ Activity.after a' rest) (hp : c.phase ≠ .entering) (b : Activity)
    (hb : b ∈ Activity.after a' rest) (hrep : b.isReport = false) : b.taken = [] := by
  have ha := Multiset.mem_cons_self a rest
  rcases Activity.mem_after.1 hc with hc | hc
  · have hb : b ∈ rest := by
      apply (Activity.mem_after.1 hb).resolve_left
      intro hb
      rw [hc] at hb
      cases hb
      cases hrep
    have hb' : b ∈ a ::ₘ rest := Multiset.mem_cons_of_mem hb
    obtain ⟨c₀, e, p, rfl, hm₀, hc₀⟩ := hm.of_start hc
    by_cases he : c₀.phase = .entering
    · have hg := hm₀.guarded_eq_false he hc₀ hp
      exact Activity.taken_of_not_guards hrep (hi.regular.guards_eq_zero hg hb')
    · exact h.idle c₀ e ha he b hb' hrep
  · have hc' : .start c executes ∈ a ::ₘ rest := Multiset.mem_cons_of_mem hc
    rcases Activity.mem_after.1 hb with hb | hb
    · refine hm.taken_eq_nil ((hi.fitsSession _ hc').vacant hp) ?_ hb hrep
      refine h.idle c executes hc' hp a ha ?_
      by_contra hn
      have hf := hr _ hc (by simpa using hn)
      cases hf
    · exact h.idle c executes hc' hp b (Multiset.mem_cons_of_mem hb) hrep

include hfound

/-- A section of one of the session's activities keeps the session covered. -/
lemma advance : Covered found' s' (Activity.after a' rest) where
  starts := h.advance_starts hi hm hr hfound
  active := h.advance_active hi hm hfound
  idle := h.advance_idle hi hm hr
  used := h.advance_used hi hm hfound

end Advance

/-! ### What else happens -/

/-- What is found for queries of other sessions keeps a session covered. -/
lemma elsewhere (h : Covered found s acts) (hi : InOrder w s acts)
    (hf : ∀ k, k.session = s.id → ∀ ts, found' k ts ↔ found k ts) : Covered found' s acts where
  starts c executes hc := by
    exact (h.starts c executes hc).congr fun k hk => hf k (hi.regular.bounded_of_mem hc hk).1
  active q hq := by
    have hk : q.key ∈ s.keys := Session.mem_keys.2 ⟨q.locked, hq⟩
    exact (h.active q hq).congr (hf q.key (hi.regular.bounded_active hk).1)
  idle := h.idle
  used k ts hk hs := h.used k ts ((hf k hs ts).1 hk) hs

/-- Something is begun. -/
lemma begin (h : Covered found s acts) (ha : a.isFresh) : Covered found s (a ::ₘ acts) where
  starts c executes hc := by
    rcases Multiset.mem_cons.1 hc with rfl | hc
    · rw [Start.Covered, Activity.isFresh_start.1 ha]
      trivial
    · exact h.starts c executes hc
  active := h.active
  idle c executes hc hp b hb hrep := by
    have hc : .start c executes ∈ acts := by
      refine (Multiset.mem_cons.1 hc).resolve_left ?_
      rintro rfl
      exact hp (Activity.isFresh_start.1 ha)
    rcases Multiset.mem_cons.1 hb with rfl | hb
    · exact (b.account_of_isFresh ha).1
    · exact h.idle c executes hc hp b hb hrep
  used := h.used

/-- A session in which nothing has happened. -/
lemma fresh (id : SessionId) (kind : Session.Kind) (hf : ∀ k ts, found k ts → k.session ≠ id) :
    Covered found (.fresh id kind) 0 where
  starts c executes hc := absurd hc (Multiset.notMem_zero _)
  active q hq := by cases hq
  idle c executes hc := absurd hc (Multiset.notMem_zero _)
  used k ts hk hs := absurd hs (hf k ts hk)

end Covered

end QueryAdmission
