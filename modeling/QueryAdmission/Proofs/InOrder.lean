import QueryAdmission.Proofs.Accounted

/-!
# Sessions in order

A session that is open and all that goes on in it are in order (`InOrder`) if nothing is lost
between them: every table that the session owns is locked for its active query or is in somebody's
hands, every record of the session has somebody who answers for it or is about to be swept, the
active query has a record that runs, and only one call has the session guarded. Sections of the
session's own activities keep it in order (`InOrder.advance`), as long as its starts do not overlap;
and so does all that happens in other sessions (`InOrder.elsewhere`).
-/

namespace QueryAdmission

open Status (MayAdmit)

/-- A session that is open, and all that goes on in it. -/
structure InOrder (w : World MemoryHost) (s : Session) (acts : Multiset Activity) : Prop where
  own : ∀ a ∈ acts, a.session = s.id
  share_eq : ∀ t, w.host.locks.share s.id t
    = s.lockedTables.count t + (acts.map fun a => a.taken.count t).sum
  guards_eq : (acts.map Activity.guards).sum = s.guards
  nodup : (s.keys + acts.bind Activity.keys).Nodup
  bounded : ∀ k ∈ s.keys + acts.bind Activity.keys, k.session = s.id ∧ k.sequence ≤ s.sequence
  running : ∀ k ∈ s.keys, w.service.status? k = some .running
  vacant : ∀ a ∈ acts, 0 < a.sweeps → s.active = none
  answered : ∀ k, k.session = s.id → w.service.status? k ≠ none →
    k ∈ s.keys + acts.bind Activity.keys ∨ ∃ a ∈ acts, 0 < a.sweeps
  fitsSession : ∀ a ∈ acts, a.FitsSession w s
  alone : ∀ a ∈ acts, a.closes → acts = {a}

namespace InOrder

variable {w w' : World MemoryHost} {s s' : Session} {acts rest : Multiset Activity}
  {a b : Activity} {a' : Option Activity} {k : QueryKey}

lemma owns (h : InOrder w s acts) (ha : a ∈ acts) {t : TableId} (ht : t ∈ a.taken) :
    w.host.locks.owner t = some s.id := by
  have hs := h.share_eq t
  have hc := List.count_pos_iff.2 ht
  have hl := Activity.le_sum ha fun a => a.taken.count t
  exact LockTable.share_pos.1 (by omega)

lemma owns_locked (h : InOrder w s acts) {t : TableId} (ht : t ∈ s.lockedTables) :
    w.host.locks.owner t = some s.id := by
  have hs := h.share_eq t
  have hc := List.count_pos_iff.2 ht
  exact LockTable.share_pos.1 (by omega)

/-- A session in order is regular. -/
lemma regular (h : InOrder w s acts) : Regular w s acts where
  own := h.own
  guards_eq := h.guards_eq
  nodup := h.nodup
  bounded := h.bounded
  used k hk hs := (h.answered k hk hs).imp_left fun hk => (h.bounded k hk).2
  vacant := h.vacant
  fitsRoster a ha := (h.fitsSession a ha).fitsRoster
  alone := h.alone

lemma accounted (h : InOrder w s acts) : Accounted w s acts where
  regular := h.regular
  answered := h.answered
  vacancy a ha := (h.fitsSession a ha).vacant

/-! ### Sections of the session's own activities, one field at a time -/

section Advance

variable (h : InOrder w s (a ::ₘ rest)) (hw : w.service.Sound) (hm : a.Move w s w' s' a')
  (hr : ∀ b ∈ rest, a.isStart → b.isStart = false)

include h hm

lemma advance_share_eq (t : TableId) : w'.host.locks.share s'.id t
    = s'.lockedTables.count t
      + ((Activity.after a' rest).map fun a => a.taken.count t).sum := by
  have ha := Multiset.mem_cons_self a rest
  have hs := h.share_eq t
  have hown := h.own a ha
  have hm' := hm.share_eq (h.fitsSession a ha) (fun t ht => by rw [hown]; exact h.owns ha ht) t
  have he : (a'.elim [] Activity.taken).count t = a'.elim 0 fun a => a.taken.count t := by
    cases a' <;> rfl
  rw [hown] at hm'
  rw [Multiset.map_cons, Multiset.sum_cons] at hs
  rw [hm.id_eq, Activity.sum_after]
  omega

include hw

lemma advance_running : ∀ k ∈ s'.keys, w'.service.status? k = some .running := by
  intro k hk
  have ha := Multiset.mem_cons_self a rest
  rcases hm.mem_keys (h.fitsSession a ha).fitsRoster hk with hk | hk
  · have hks := (h.regular.bounded_active hk).1
    rcases h.regular.advance_mayAdmit hw hm (h.regular.notMem_keys hk) hks with hma | ⟨hs, -, -⟩
    · rw [h.running k hk] at hma
      exact Status.mayAdmit_running.1 hma
    · rw [Session.keys_of_none (h.vacant a ha hs)] at hk
      exact absurd hk (Multiset.notMem_zero k)
  · exact hk

include hr

/-- A start fits its session also after what other activities there do: they take no tables. -/
lemma advance_fitsSession : ∀ b ∈ Activity.after a' rest, b.FitsSession w' s' := by
  intro b hb
  have hfits := h.regular.advance_fitsRoster hw hm
  have ha := Multiset.mem_cons_self a rest
  rcases Activity.mem_after.1 hb with hb | hb
  · exact hm.fitsSession (h.fitsSession a ha)
      (fun b hb => hfits b (Activity.mem_after.2 (.inl hb))) b hb
  · cases b with
    | entering | inside | finish | abort | utility => trivial
    | start c executes =>
      have hc : c.FitsSession w s := h.fitsSession _ (Multiset.mem_cons_of_mem hb)
      have hc' : c.FitsRoster w' := hfits _ (Activity.mem_after.2 (.inr hb))
      have hns : a.isStart = false := by
        by_contra hs
        exact absurd (hr _ hb (by simpa using hs)) (by simp [Activity.isStart])
      have hv := (h.accounted.advance hw hm hr).vacancy _ (Activity.mem_after.2 (.inr hb))
      refine ⟨hc'.coherent, hc'.fits, hv, ?_⟩
      intro key a t left taken hp ht ho
      exact hc.lacks key a t left taken hp ht (hm.owner_of hns ho)

/-- A section of one of the session's activities keeps the session in order. -/
lemma advance : InOrder w' s' (Activity.after a' rest) :=
  have hacc := h.accounted.advance hw hm hr
  { hacc.regular with
    share_eq := h.advance_share_eq hm
    running := h.advance_running hw hm
    answered := hacc.answered
    fitsSession := h.advance_fitsSession hw hm hr }

end Advance

/-! ### What else happens -/

/-- What happens in other sessions keeps a session in order. -/
lemma elsewhere (h : InOrder w s acts)
    (hl : ∀ t, w'.host.locks.owner t = some s.id ↔ w.host.locks.owner t = some s.id)
    (hst : ∀ k, k.session = s.id → MayAdmit (w.service.status? k) (w'.service.status? k)) :
    InOrder w' s acts :=
  have hacc := h.accounted.elsewhere hst
  { hacc.regular with
    share_eq := by
      intro t
      rw [← h.share_eq]
      simp only [LockTable.share, hl]
    running := by
      intro k hk
      have hs := hst k (h.regular.bounded_active hk).1
      rw [h.running k hk] at hs
      exact Status.mayAdmit_running.1 hs
    answered := hacc.answered
    fitsSession := by
      intro a ha
      cases a with
      | entering | inside | finish | abort | utility => trivial
      | start c executes =>
        have hc : c.FitsSession w s := h.fitsSession _ ha
        have hc' : c.FitsRoster w' := hacc.regular.fitsRoster _ ha
        have hown : c.session = s.id := h.own _ ha
        refine ⟨hc'.coherent, hc'.fits, hc.vacant, ?_⟩
        intro key a t left taken hp ht ho
        rw [hown] at ho
        refine hc.lacks key a t left taken hp ht ?_
        rw [hown]
        exact (hl t).1 ho }

/-- Something is begun, and not while the session is being closed. -/
lemma begin (h : InOrder w s acts) (ha : a.isFresh) (hs : a.session = s.id)
    (hb : ∀ b ∈ acts, a.closes = false ∧ b.closes = false) : InOrder w s (a ::ₘ acts) :=
  have hacc := h.accounted.begin ha hs hb
  have ⟨ht, _, _, _⟩ := a.account_of_isFresh ha
  { hacc.regular with
    share_eq := by
      intro t
      rw [h.share_eq, Multiset.map_cons, Multiset.sum_cons, ht, List.count_nil, Nat.zero_add]
    running := h.running
    answered := hacc.answered
    fitsSession := by
      intro b hb
      rcases Multiset.mem_cons.1 hb with rfl | hb
      · exact b.fitsSession_of_isFresh w s ha
      · exact h.fitsSession b hb }

/-- A session that was never open is in order when it is opened. -/
lemma fresh (id : SessionId) (kind : Session.Kind) (hl : ∀ t, w.host.locks.share id t = 0)
    (hst : ∀ k, k.session = id → w.service.status? k = none) :
    InOrder w (.fresh id kind) 0 :=
  have hreg := Regular.fresh id kind hst
  { hreg with
    share_eq := by
      intro t
      exact hl t
    running := by
      intro k hk
      exact absurd hk (Multiset.notMem_zero k)
    answered := by
      intro k hk hn
      exact absurd (hst k hk) hn
    fitsSession := by simp }

/-- A session in which nothing goes on and no query is active has no tables and no records. -/
lemma vacated (h : InOrder w s 0) (hs : s.active = none) :
    (∀ t, w.host.locks.share s.id t = 0) ∧
      ∀ k, k.session = s.id → w.service.status? k = none := by
  constructor
  · intro t
    rw [h.share_eq, Session.lockedTables_of_none hs]
    rfl
  · intro k hk
    by_contra hn
    rcases h.answered k hk hn with hk | ⟨a, ha, -⟩
    · rw [Session.keys_of_none hs] at hk
      exact Multiset.notMem_zero k hk
    · exact Multiset.notMem_zero a ha

end InOrder

end QueryAdmission
