import Mathlib.Algebra.Order.BigOperators.Group.Multiset
import Mathlib.Data.Multiset.Bind
import QueryAdmission.Proofs.Activity

/-!
# Sessions whose starts may overlap

What holds of a session that is open and of all that goes on in it, also when several of its starts
go on at the same time (`Regular`): no two of them answer for one key, keys are used up in ascending
order, only one call has the session guarded, no query is active when the session's records are
about to be swept, and each start fits the roster.

Nothing is said here about tables: with overlapping starts, they may get lost.
-/

namespace QueryAdmission

open Status (MayAdmit)

/-! ### Activities side by side -/

namespace Activity

/-- What goes on after a section: what the section led to, and the rest. -/
def after (a' : Option Activity) (rest : Multiset Activity) : Multiset Activity :=
  a'.elim rest (· ::ₘ rest)

variable {a b : Activity} {a' : Option Activity} {rest : Multiset Activity}

@[simp] lemma mem_after : b ∈ after a' rest ↔ a' = some b ∨ b ∈ rest := by
  cases a' with
  | none => simp [after]
  | some a => simp [after, eq_comm]

lemma sum_after (f : Activity → Nat) :
    ((after a' rest).map f).sum = a'.elim 0 f + (rest.map f).sum := by
  cases a' with
  | none => simp [after]
  | some a => simp [after]

lemma bind_after {β : Type} (f : Activity → Multiset β) :
    (after a' rest).bind f = a'.elim 0 f + rest.bind f := by
  cases a' with
  | none => simp [after]
  | some a => simp [after]

lemma le_sum {acts : Multiset Activity} (ha : a ∈ acts) (f : Activity → Nat) :
    f a ≤ (acts.map f).sum :=
  Multiset.single_le_sum (fun _ _ => Nat.zero_le _) _ (Multiset.mem_map_of_mem f ha)

/-- Activities that have no tables in their hands. -/
lemma sum_count_taken {acts : Multiset Activity} (h : ∀ b ∈ acts, b.taken = []) (u : TableId) :
    (acts.map fun b => b.taken.count u).sum = 0 := by
  apply Multiset.sum_eq_zero
  intro n hn
  obtain ⟨b, hb, rfl⟩ := Multiset.mem_map.1 hn
  rw [h b hb, List.count_nil]

end Activity

/-- A session that is open, and all that goes on in it. -/
structure Regular (w : World MemoryHost) (s : Session) (acts : Multiset Activity) : Prop where
  own : ∀ a ∈ acts, a.session = s.id
  guards_eq : (acts.map Activity.guards).sum = s.guards
  nodup : (s.keys + acts.bind Activity.keys).Nodup
  bounded : ∀ k ∈ s.keys + acts.bind Activity.keys, k.session = s.id ∧ k.sequence ≤ s.sequence
  used : ∀ k, k.session = s.id → w.service.status? k ≠ none →
    k.sequence ≤ s.sequence ∨ ∃ a ∈ acts, 0 < a.sweeps
  vacant : ∀ a ∈ acts, 0 < a.sweeps → s.active = none
  fitsRoster : ∀ a ∈ acts, a.FitsRoster w
  alone : ∀ a ∈ acts, a.closes → acts = {a}

namespace Regular

variable {w w' : World MemoryHost} {s s' : Session} {acts rest : Multiset Activity}
  {a b : Activity} {a' : Option Activity} {k : QueryKey}

lemma guards_le (h : Regular w s (a ::ₘ rest)) : a.guards ≤ s.guards := by
  rw [← h.guards_eq, Multiset.map_cons, Multiset.sum_cons]
  exact Nat.le_add_right _ _

/-- Not two of them have the session guarded. -/
lemma guards_add_le (h : Regular w s (a ::ₘ rest)) (hb : b ∈ rest) : a.guards + b.guards ≤ 1 := by
  have hg := h.guards_eq
  have hl := Activity.le_sum hb Activity.guards
  have hs := s.guards_le_one
  rw [Multiset.map_cons, Multiset.sum_cons] at hg
  omega

lemma guards_eq_zero (h : Regular w s acts) (hg : s.guarded = false) (ha : a ∈ acts) :
    a.guards = 0 := by
  have hl := Activity.le_sum ha Activity.guards
  rw [h.guards_eq, Session.guards_eq_zero.2 hg] at hl
  exact Nat.le_zero.1 hl

/-- Nobody is about to sweep while the session is not guarded. -/
lemma sweeps_eq_zero (h : Regular w s acts) (hg : s.guarded = false) (ha : a ∈ acts) :
    a.sweeps = 0 := by
  have hs := a.sweeps_le_guards
  rw [h.guards_eq_zero hg ha] at hs
  exact Nat.le_zero.1 hs

lemma nodup_cons (h : Regular w s (a ::ₘ rest)) :
    (s.keys + (a.keys + rest.bind Activity.keys)).Nodup := by
  have hn := h.nodup
  rwa [Multiset.cons_bind] at hn

lemma notMem_keys (h : Regular w s (a ::ₘ rest)) (hk : k ∈ s.keys) : k ∉ a.keys := by
  intro ha
  have hd := (Multiset.nodup_add.1 h.nodup_cons).2.2
  exact Multiset.disjoint_left.1 hd hk (Multiset.mem_add.2 (.inl ha))

lemma notMem_keys_of_mem (h : Regular w s (a ::ₘ rest)) (hb : b ∈ rest) (hk : k ∈ b.keys) :
    k ∉ a.keys := by
  intro ha
  have hd := (Multiset.nodup_add.1 (Multiset.nodup_add.1 h.nodup_cons).2.1).2.2
  exact Multiset.disjoint_left.1 hd ha (Multiset.mem_bind.2 ⟨b, hb, hk⟩)

lemma bounded_active (h : Regular w s acts) (hk : k ∈ s.keys) :
    k.session = s.id ∧ k.sequence ≤ s.sequence :=
  h.bounded k (Multiset.mem_add.2 (.inl hk))

lemma bounded_of_mem (h : Regular w s acts) (ha : a ∈ acts) (hk : k ∈ a.keys) :
    k.session = s.id ∧ k.sequence ≤ s.sequence :=
  h.bounded k (Multiset.mem_add.2 (.inr (Multiset.mem_bind.2 ⟨a, ha, hk⟩)))

lemma nextKey_notMem (h : Regular w s acts) : s.nextKey ∉ s.keys + acts.bind Activity.keys := by
  intro hk
  have hs : s.sequence + 1 ≤ s.sequence := (h.bounded _ hk).2
  omega

lemma status?_nextKey (h : Regular w s acts) (hg : s.guarded = false) :
    w.service.status? s.nextKey = none := by
  by_contra hn
  rcases h.used s.nextKey rfl hn with hk | ⟨a, ha, hs⟩
  · have hs : s.sequence + 1 ≤ s.sequence := hk
    omega
  · rw [h.sweeps_eq_zero hg ha] at hs
    exact Nat.lt_irrefl 0 hs

lemma session_of_mem (h : Regular w s acts) (hk : k ∈ s.nextKey ::ₘ s.keys) : k.session = s.id := by
  rcases Multiset.mem_cons.1 hk with rfl | hk
  · rfl
  · exact (h.bounded_active hk).1

/-! ### Sections of the session's own activities, one field at a time -/

section Advance

variable (h : Regular w s (a ::ₘ rest)) (hw : w.service.Sound) (hm : a.Move w s w' s' a')

include h hm

lemma advance_own : ∀ b ∈ Activity.after a' rest, b.session = s'.id := by
  intro b hb
  rw [hm.id_eq]
  rcases Activity.mem_after.1 hb with hb | hb
  · rw [(hm.same hb).1]
    exact h.own a (Multiset.mem_cons_self a rest)
  · exact h.own b (Multiset.mem_cons_of_mem hb)

lemma advance_guards_eq : ((Activity.after a' rest).map Activity.guards).sum = s'.guards := by
  have hg := h.guards_eq
  have hm' := hm.guards_eq h.guards_le
  rw [Multiset.map_cons, Multiset.sum_cons] at hg
  rw [Activity.sum_after]
  omega

/-- Keys are handed on, and the one that is new has never been used. -/
lemma advance_keys : (s'.keys + (Activity.after a' rest).bind Activity.keys).Nodup ∧
    ∀ k ∈ s'.keys + (Activity.after a' rest).bind Activity.keys,
      k.session = s'.id ∧ k.sequence ≤ s'.sequence := by
  have hn := h.nextKey_notMem
  have hnd := h.nodup
  have hb := h.bounded
  rw [Multiset.cons_bind, ← add_assoc] at hn hnd hb
  rw [hm.id_eq, Activity.bind_after, ← add_assoc]
  rcases hm.keys_le with ⟨hle, hs⟩ | ⟨heq, hs⟩
  · have hle' : s'.keys + a'.elim 0 Activity.keys + rest.bind Activity.keys
        ≤ s.keys + a.keys + rest.bind Activity.keys := add_le_add_left hle _
    refine ⟨Multiset.nodup_of_le hle' hnd, fun k hk => ?_⟩
    rw [hs]
    exact hb k (Multiset.mem_of_le hle' hk)
  · rw [heq, Multiset.cons_add]
    refine ⟨Multiset.nodup_cons.2 ⟨hn, hnd⟩, fun k hk => ?_⟩
    rw [hs]
    rcases Multiset.mem_cons.1 hk with rfl | hk
    · exact ⟨rfl, Nat.le_refl _⟩
    · exact ⟨(hb k hk).1, Nat.le_succ_of_le (hb k hk).2⟩

lemma advance_vacant : ∀ b ∈ Activity.after a' rest, 0 < b.sweeps → s'.active = none := by
  intro b hb hs
  have ha := Multiset.mem_cons_self a rest
  rcases Activity.mem_after.1 hb with rfl | hb
  · exact hm.sweeps hs (h.vacant a ha)
  · refine hm.active_eq_none (.inl ?_) (h.vacant b (Multiset.mem_cons_of_mem hb) hs)
    have hg := h.guards_add_le hb
    have hl := b.sweeps_le_guards
    omega

lemma advance_alone : ∀ b ∈ Activity.after a' rest, b.closes →
    Activity.after a' rest = {b} := by
  intro b hb hc
  have ha := Multiset.mem_cons_self a rest
  have empty {x : Activity} (he : a ::ₘ rest = {x}) : rest = 0 :=
    ((Multiset.singleton_eq_cons_iff _).1 he.symm).2
  rcases Activity.mem_after.1 hb with rfl | hb
  · have hc' : a.closes = true := by rwa [← (hm.same rfl).2.1]
    rw [empty (h.alone a ha hc')]
    rfl
  · rw [empty (h.alone b (Multiset.mem_cons_of_mem hb) hc)] at hb
    exact absurd hb (Multiset.notMem_zero b)

include hw

/-- A key that the activity does not answer for keeps its record, but for a slot that it may be
given and but for a sweep. -/
lemma advance_mayAdmit (hk : k ∉ a.keys) (hs : k.session = s.id) :
    MayAdmit (w.service.status? k) (w'.service.status? k) ∨
      0 < a.sweeps ∧ a'.elim 0 Activity.sweeps = 0 ∧ w'.service.status? k = none := by
  have ha := Multiset.mem_cons_self a rest
  by_cases hsw : a.sweeps = 0 ∨ 0 < a'.elim 0 Activity.sweeps
  · exact .inl (hm.mayAdmit hw (h.fitsRoster a ha) hk (.inr hsw))
  · rw [not_or] at hsw
    refine .inr ⟨by omega, by omega, ?_⟩
    exact hm.swept (by omega) (by omega) (hs.trans (h.own a ha).symm)

lemma advance_used (k : QueryKey) (hk : k.session = s'.id) (hst : w'.service.status? k ≠ none) :
    k.sequence ≤ s'.sequence ∨ ∃ b ∈ Activity.after a' rest, 0 < b.sweeps := by
  have ha := Multiset.mem_cons_self a rest
  rw [hm.id_eq] at hk
  have hle : s.sequence ≤ s'.sequence := by
    rcases hm.keys_le with ⟨-, hs⟩ | ⟨-, hs⟩ <;> omega
  by_cases hka : k ∈ a.keys
  · exact .inl (Nat.le_trans (h.bounded_of_mem ha hka).2 hle)
  rcases h.advance_mayAdmit hw hm hka hk with hma | ⟨-, -, hn⟩
  · rcases h.used k hk fun hn => hst (hma.eq_none.2 hn) with hs | ⟨b, hb, hs⟩
    · exact .inl (Nat.le_trans hs hle)
    rcases Multiset.mem_cons.1 hb with rfl | hb
    · -- The sweep has not happened yet, or the record would be gone.
      cases a' with
      | none => exact absurd (hm.swept hs rfl (hk.trans (h.own b ha).symm)) hst
      | some b' =>
        by_cases hb' : b'.sweeps = 0
        · exact absurd (hm.swept hs hb' (hk.trans (h.own b ha).symm)) hst
        · exact .inr ⟨b', Activity.mem_after.2 (.inl rfl), Nat.pos_of_ne_zero hb'⟩
    · exact .inr ⟨b, Activity.mem_after.2 (.inr hb), hs⟩
  · exact absurd hn hst

/-- A start fits the roster also after what other activities of the session do: they answer for
other keys, and sweep no records while it has the session guarded. -/
lemma advance_fitsRoster : ∀ b ∈ Activity.after a' rest, b.FitsRoster w' := by
  intro b hb
  have ha := Multiset.mem_cons_self a rest
  rcases Activity.mem_after.1 hb with hb | hb
  · refine hm.fitsRoster hw (h.fitsRoster a ha) (fun k hk => ?_)
      (fun hg => h.status?_nextKey hg) b hb
    rw [h.own a ha]
    exact h.session_of_mem hk
  · cases b with
    | entering | inside | finish | abort | utility => trivial
    | start c executes =>
      have hb' : Activity.start c executes ∈ a ::ₘ rest := Multiset.mem_cons_of_mem hb
      have hc : c.FitsRoster w := h.fitsRoster _ hb'
      have hown : c.session = s.id := h.own _ hb'
      have hkeys (k : QueryKey) (hk : k ∈ c.keys) :=
        h.advance_mayAdmit hw hm (h.notMem_keys_of_mem hb hk)
          ((hc.coherent.session_eq k hk).trans hown)
      refine ⟨hc.coherent, ?_⟩
      by_cases hs : 0 < a.sweeps ∧ a'.elim 0 Activity.sweeps = 0
      · refine Start.fits_none ?_ fun k hk => hm.swept hs.1 hs.2 ?_
        · have hg := h.guards_add_le hb
          have hl := a.sweeps_le_guards
          have hcg : (Activity.start c executes).guards = c.guards := rfl
          omega
        · rw [hc.coherent.session_eq k hk, hown, h.own a ha]
      · exact Start.fits_mayAdmit hc.fits fun k hk =>
          (hkeys k hk).resolve_right fun hn => hs ⟨hn.1, hn.2.1⟩

/-- A section of one of the session's activities keeps the session regular. -/
lemma advance : Regular w' s' (Activity.after a' rest) where
  own := h.advance_own hm
  guards_eq := h.advance_guards_eq hm
  nodup := (h.advance_keys hm).1
  bounded := (h.advance_keys hm).2
  used := h.advance_used hw hm
  vacant := h.advance_vacant hm
  fitsRoster := h.advance_fitsRoster hw hm
  alone := h.advance_alone hm

end Advance

/-! ### What else happens -/

/-- What happens in other sessions keeps a session regular. -/
lemma elsewhere (h : Regular w s acts)
    (hst : ∀ k, k.session = s.id → MayAdmit (w.service.status? k) (w'.service.status? k)) :
    Regular w' s acts where
  own := h.own
  guards_eq := h.guards_eq
  nodup := h.nodup
  bounded := h.bounded
  used := by
    intro k hk hs
    exact h.used k hk fun hn => hs ((hst k hk).eq_none.2 hn)
  vacant := h.vacant
  fitsRoster := by
    intro a ha
    cases a with
    | entering | inside | finish | abort | utility => trivial
    | start c executes =>
      have hc : c.FitsRoster w := h.fitsRoster _ ha
      refine ⟨hc.coherent, Start.fits_mayAdmit hc.fits fun k hk => hst k ?_⟩
      exact (hc.coherent.session_eq k hk).trans (h.own _ ha)
  alone := h.alone

/-- Something is begun, and not while the session is being closed. -/
lemma begin (h : Regular w s acts) (ha : a.isFresh) (hs : a.session = s.id)
    (hb : ∀ b ∈ acts, a.closes = false ∧ b.closes = false) : Regular w s (a ::ₘ acts) := by
  obtain ⟨-, hk, hg, hsw⟩ := a.account_of_isFresh ha
  refine ⟨?_, ?_, ?_, ?_, ?_, ?_, ?_, ?_⟩
  · rintro b hb
    rcases Multiset.mem_cons.1 hb with rfl | hb
    · exact hs
    · exact h.own b hb
  · rw [Multiset.map_cons, Multiset.sum_cons, hg, Nat.zero_add, h.guards_eq]
  · rw [Multiset.cons_bind, hk, zero_add]
    exact h.nodup
  · rw [Multiset.cons_bind, hk, zero_add]
    exact h.bounded
  · intro k hks hst
    refine (h.used k hks hst).imp_right ?_
    rintro ⟨b, hb, hsb⟩
    exact ⟨b, Multiset.mem_cons_of_mem hb, hsb⟩
  · intro b hb hsb
    rcases Multiset.mem_cons.1 hb with rfl | hb
    · omega
    · exact h.vacant b hb hsb
  · intro b hb
    rcases Multiset.mem_cons.1 hb with rfl | hb
    · exact (b.fitsSession_of_isFresh w s ha).fitsRoster
    · exact h.fitsRoster b hb
  · intro b hb' hc
    rcases Multiset.mem_cons.1 hb' with rfl | hb'
    · have he : acts = 0 := by
        apply Multiset.eq_zero_of_forall_notMem
        intro b hb'
        rw [(hb b hb').1] at hc
        exact Bool.false_ne_true hc
      rw [he]
      rfl
    · rw [(hb b hb').2] at hc
      exact absurd hc Bool.false_ne_true

/-- A session that was never open is regular when it is opened. -/
lemma fresh (id : SessionId) (kind : Session.Kind)
    (hst : ∀ k, k.session = id → w.service.status? k = none) :
    Regular w (.fresh id kind) 0 where
  own := by simp
  guards_eq := rfl
  nodup := Multiset.nodup_zero
  bounded := by
    intro k hk
    exact absurd hk (Multiset.notMem_zero k)
  used := by
    intro k hk hn
    exact absurd (hst k hk) hn
  vacant := by simp
  fitsRoster := by simp
  alone := by simp

end Regular

end QueryAdmission
