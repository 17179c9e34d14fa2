import QueryAdmission.Proofs.Regular

/-!
# Sessions whose records are accounted for

As long as the starts of a session do not overlap, no record of the session is forgotten: somebody
answers for its key, or it is about to be swept (`Accounted`). This does not depend on who owns the
session's tables, so it holds as well while the session also takes and frees tables by itself. The
sections of the session's own activities keep it so (`Accounted.advance`), and a session in which
nothing goes on has no record but that of its active query (`Accounted.at_rest`).
-/

namespace QueryAdmission

open Status (MayAdmit)

variable {w w' : World MemoryHost} {s s' : Session} {acts rest : Multiset Activity}
  {a b : Activity} {a' : Option Activity} {k : QueryKey}

/-- If there is a record of the key, somebody answers for it, or it is about to be swept. -/
def Answered (w : World MemoryHost) (s : Session) (acts : Multiset Activity) (k : QueryKey) :
    Prop :=
  w.service.status? k ≠ none → k ∈ s.keys + acts.bind Activity.keys ∨ ∃ a ∈ acts, 0 < a.sweeps

lemma Answered.elsewhere (h : Answered w s acts k)
    (hst : MayAdmit (w.service.status? k) (w'.service.status? k)) : Answered w' s acts k :=
  fun hs => h fun hn => hs (hst.eq_none.2 hn)

lemma Answered.begin (h : Answered w s acts k) (ha : a.isFresh) : Answered w s (a ::ₘ acts) k := by
  intro hst
  obtain ⟨-, hk, -, -⟩ := a.account_of_isFresh ha
  rw [Multiset.cons_bind, hk, zero_add]
  refine (h hst).imp_right ?_
  rintro ⟨b, hb, hsb⟩
  exact ⟨b, Multiset.mem_cons_of_mem hb, hsb⟩

/-- A section of one of the session's activities hands on the answer for a key, until there is no
record of it. -/
lemma Regular.advance_answered (h : Regular w s (a ::ₘ rest)) (hw : w.service.Sound)
    (hm : a.Move w s w' s' a') (hv : a.Vacant s) (hk : k.session = s.id)
    (hans : Answered w s (a ::ₘ rest) k) : Answered w' s' (Activity.after a' rest) k := by
  intro hst
  have ha := Multiset.mem_cons_self a rest
  have hown := h.own a ha
  rw [Activity.bind_after, ← add_assoc]
  have sweeps (hs : 0 < a'.elim 0 Activity.sweeps) :
      ∃ b ∈ Activity.after a' rest, 0 < b.sweeps := by
    cases a' with
    | none => cases hs
    | some b => exact ⟨b, Activity.mem_after.2 (.inl rfl), hs⟩
  by_cases hka : k ∈ a.keys
  · -- The activity answered for the key, and has not dropped it: there is a record.
    by_contra hn
    refine hst (hm.dropped (h.fitsRoster a ha) hka fun hk => hn (.inl ?_))
    exact Multiset.mem_add.2 (.inl hk)
  rcases h.advance_mayAdmit hw hm hka hk with hma | ⟨-, -, hn⟩
  · rcases hans fun hn => hst (hma.eq_none.2 hn) with hk' | ⟨b, hb, hbs⟩
    · rw [Multiset.cons_bind] at hk'
      rcases Multiset.mem_add.1 hk' with hk' | hk'
      · rcases hm.keys_kept hv hk' with hk' | hk'
        · exact .inl (Multiset.mem_add.2 (.inl hk'))
        · exact .inr (sweeps hk')
      · refine .inl (Multiset.mem_add.2 (.inr ?_))
        exact (Multiset.mem_add.1 hk').resolve_left hka
    · rcases Multiset.mem_cons.1 hb with rfl | hb
      · by_contra hns
        rw [not_or] at hns
        have hsw : a'.elim 0 Activity.sweeps = 0 := by
          by_contra hne
          exact hns.2 (sweeps (Nat.pos_of_ne_zero hne))
        exact hst (hm.swept hbs hsw (hk.trans hown.symm))
      · exact .inr ⟨b, Activity.mem_after.2 (.inr hb), hbs⟩
  · exact absurd hn hst

/-- A session that is open and all that goes on in it, with no record forgotten. -/
structure Accounted (w : World MemoryHost) (s : Session) (acts : Multiset Activity) : Prop where
  regular : Regular w s acts
  answered : ∀ k, k.session = s.id → Answered w s acts k
  vacancy : ∀ a ∈ acts, a.Vacant s

namespace Accounted

/-- A section of one of the session's activities keeps the session accounted for, if no two starts
go on in it. -/
lemma advance (h : Accounted w s (a ::ₘ rest)) (hw : w.service.Sound) (hm : a.Move w s w' s' a')
    (hr : ∀ b ∈ rest, a.isStart → b.isStart = false) :
    Accounted w' s' (Activity.after a' rest) where
  regular := h.regular.advance hw hm
  answered k hk := by
    rw [hm.id_eq] at hk
    have hv := h.vacancy a (Multiset.mem_cons_self a rest)
    exact h.regular.advance_answered hw hm hv hk (h.answered k hk)
  vacancy b hb := by
    rcases Activity.mem_after.1 hb with hb' | hb'
    · exact hm.vacant (h.vacancy a (Multiset.mem_cons_self a rest)) b hb'
    by_cases hs : a.isStart = true
    · exact Activity.vacant_of_isStart (hr b hb' hs) s'
    · have hv := h.vacancy b (Multiset.mem_cons_of_mem hb')
      cases b with
      | entering | inside | finish | abort | utility => trivial
      | start c executes =>
        intro hp
        refine hm.active_eq_none ?_ (hv hp)
        cases a with
        | start => exact absurd rfl hs
        | entering | inside | finish | utility => exact .inl rfl
        | abort c closes => exact Nat.eq_zero_or_pos _

/-- What happens in other sessions forgets no record of the session. -/
lemma elsewhere (h : Accounted w s acts)
    (hst : ∀ k, k.session = s.id → MayAdmit (w.service.status? k) (w'.service.status? k)) :
    Accounted w' s acts where
  regular := h.regular.elsewhere hst
  answered k hk := (h.answered k hk).elsewhere (hst k hk)
  vacancy := h.vacancy

/-- Something is begun, and not while the session is being closed. -/
lemma begin (h : Accounted w s acts) (ha : a.isFresh) (hs : a.session = s.id)
    (hb : ∀ b ∈ acts, a.closes = false ∧ b.closes = false) : Accounted w s (a ::ₘ acts) where
  regular := h.regular.begin ha hs hb
  answered k hk := (h.answered k hk).begin ha
  vacancy b hb' := by
    rcases Multiset.mem_cons.1 hb' with rfl | hb'
    · exact (b.fitsSession_of_isFresh w s ha).vacant
    · exact h.vacancy b hb'

/-- A session that was never open is accounted for when it is opened. -/
lemma fresh (id : SessionId) (kind : Session.Kind)
    (hst : ∀ k, k.session = id → w.service.status? k = none) :
    Accounted w (.fresh id kind) 0 where
  regular := .fresh id kind hst
  answered k hk hn := absurd (hst k hk) hn
  vacancy := by simp

/-- A session in which nothing goes on is not guarded, and has no record but that of its active
query. -/
lemma at_rest (h : Accounted w s 0) :
    s.guarded = false ∧
      ∀ k, k.session = s.id → w.service.status? k ≠ none → s.activeKey = some k := by
  constructor
  · exact Session.guards_eq_zero.1 h.regular.guards_eq.symm
  · intro k hk hst
    rcases h.answered k hk hst with hk | ⟨a, ha, -⟩
    · obtain ⟨locked, hs⟩ := Session.mem_keys.1 ((Multiset.mem_add.1 hk).resolve_right
        (Multiset.notMem_zero k))
      rw [Session.activeKey, hs]
      rfl
    · exact absurd ha (Multiset.notMem_zero a)

end Accounted

end QueryAdmission
