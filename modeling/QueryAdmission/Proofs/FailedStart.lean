import QueryAdmission.Proofs.Aborted
import QueryAdmission.Proofs.Aside

/-!
# Starts that fail

A start may be refused at any of its stations: when it wants to register, while it waits, in its
lock pass, or at the check before its query is installed. Wherever that is, it leaves the session
idle (`Traffic.failed_start`): no query is active, there is no record of the start's own query nor
of a stale one that it found, the session owns none of the tables that were locked for these two,
and it still owns what its transaction had taken besides.

A start is followed through all that other sessions do and through aborts of its own session
(`Traffic.Attempt`). Before it enters the session, the stale query is the session's, or an abort is
dealing with it, or it is gone (`Traffic.Ahead`). From then on nothing is left to anybody but the
start (`Traffic.Beyond`).
-/

namespace QueryAdmission

namespace Start

variable {w w' : World MemoryHost} {s s' : Session} {c c' : Start} {k : QueryKey}
  {p : Progress Start (Except Refusal (Option QueryKey))}

lemma Move.entered_of_refused (h : c.Move w s w' s' p) {r : Refusal} (hp : p = .done (.error r)) :
    c.phase ≠ .entering := by
  intro hq
  cases h with
  | barred | ignored | entered | returned | finished | asked | registered | approved | denied
  | installed | unlocked => cases hp
  | refused hq' | admission hq' | failed hq' =>
    rw [hq] at hq'
    cases hq'

/-- In the end, a start has given up all the keys that it answered for. -/
lemma Move.status?_of_refused (h : c.Move w s w' s' p) (hc : c.FitsRoster w) {r : Refusal}
    (hp : p = .done (.error r)) (hs : s.active = none) (hk : k ∈ c.keys) :
    w'.service.status? k = none := by
  refine h.dropped hc.coherent hc.fits hk ?_
  rw [Session.keys_of_none (h.active_of_refused hp hs), hp]
  exact Multiset.notMem_zero k

end Start

/-- Starts and ends apart, nothing answers for a key, and what does not have the session guarded has
no tables in its hands. -/
lemma Activity.keys_taken_of_not {a : Activity} (hs : a.isStart = false) (hf : a.isFinish = false) :
    a.keys = 0 ∧ (a.guards = 0 → a.taken = []) := by
  cases a with
  | start => cases hs
  | finish => cases hf
  | entering | inside | utility => exact ⟨rfl, fun _ => rfl⟩
  | abort c closes =>
    refine ⟨rfl, fun hg => ?_⟩
    have hg : c.guards = 0 := hg
    show c.taken = []
    cases hp : c.phase with
    | taking => simp [Abort.taken, hp]
    | releasing => simp [Abort.guards, hp] at hg

namespace Traffic

variable {executes : Bool} {t t₀ t' : Traffic} {c c₀ c' : Start} {past : List Start} {e : Event}
  {rest : Multiset Activity} {s s₀ : Session} {id : SessionId} {took : TableId → Prop}

/-! ### A start while other sessions work and its own may be aborted -/

/-- The start goes on, and beside it there is no other start in its session and no end of a query.
-/
def Unrivalled (executes : Bool) (t : Traffic) (c : Start) : Prop :=
  ∃ rest, t.underway = .start c executes ::ₘ rest ∧
    ∀ b ∈ rest, b.session = c.session → b.isStart = false ∧ b.isFinish = false

/-- A start goes on between whatever happens in other sessions and aborts of its own. The start is
kept as it was before each of its own sections. -/
inductive Attempt (executes : Bool) (t₀ : Traffic) (c₀ : Start) :
    List Start → Traffic → Start → Prop
  | nil (h : t₀.Unrivalled executes c₀) : Attempt executes t₀ c₀ [] t₀ c₀
  | other {past : List Start} {t t' : Traffic} {c : Start} {e : Event}
      (h : Attempt executes t₀ c₀ past t c) (hs : Step t e t')
      (he : e ≠ .advanced (.start c executes)) (hd : t'.Unrivalled executes c) :
      Attempt executes t₀ c₀ past t' c
  | direct {past : List Start} {t t' : Traffic} {c : Start} {other : SessionId}
      (h : Attempt executes t₀ c₀ past t c) (hd : Direct other t t') (ho : other ≠ c.session) :
      Attempt executes t₀ c₀ past t' c
  | own {past : List Start} {t : Traffic} {c c' : Start} {rest : Multiset Activity}
      (h : Attempt executes t₀ c₀ past t c) (hu : t.underway = .start c executes ::ₘ rest)
      (hc : (c.advance t.world).2.call? = some c') :
      Attempt executes t₀ c₀ (past ++ [c]) (t.advance (.start c executes) rest) c'

lemma Unrivalled.sole (h : t.Unrivalled executes c) : t.Sole (.start c executes) := by
  obtain ⟨rest, hu, hr⟩ := h
  exact ⟨rest, hu, fun b hb hbs => (hr b hb hbs).1⟩

/-- What happens beside the start in its own session is no start and no end. -/
lemma Unrivalled.beside (h : t.Unrivalled executes c) {b : Activity} {others : Multiset Activity}
    (hu : t.underway = b ::ₘ others) (hb : b ≠ .start c executes) (hs : b.session = c.session) :
    b.isStart = false ∧ b.isFinish = false := by
  obtain ⟨rest, hu', hr⟩ := h
  have hmem : b ∈ t.underway := by
    rw [hu]
    exact Multiset.mem_cons_self _ _
  rw [hu'] at hmem
  exact hr b ((Multiset.mem_cons.1 hmem).resolve_left hb) hs

lemma Attempt.proper (h : Attempt executes t₀ c₀ past t c) (hp : t₀.Proper) : t.Proper := by
  induction h with
  | nil => exact hp
  | other _ hs _ _ ih => exact ih.step hs
  | direct _ hd _ ih =>
    obtain ⟨locks, rfl, -⟩ := hd.eq_setLocks
    exact ih.setLocks locks
  | own _ hu _ ih => exact ih.advance hu

lemma Attempt.unrivalled (h : Attempt executes t₀ c₀ past t c) (hp : t₀.Proper) :
    t.Unrivalled executes c ∧ c.session = c₀.session := by
  induction h with
  | nil h => exact ⟨h, rfl⟩
  | other _ _ _ hd ih => exact ⟨hd, ih.2⟩
  | direct _ hd _ ih =>
    obtain ⟨locks, rfl, -⟩ := hd.eq_setLocks
    exact ih
  | @own past t c c' rest h hu hc ih =>
    obtain ⟨⟨rest', hu', hr⟩, hs⟩ := ih
    obtain rfl : rest' = rest := (Multiset.cons_inj_right _).1 (hu'.symm.trans hu)
    obtain ⟨s, s', -, -, hm⟩ := (h.proper hp).start_move hu
    have hcs : c'.session = c.session := hm.session_eq hc
    rw [advance_start hc]
    refine ⟨⟨_, rfl, fun b hb hbs => ?_⟩, hcs.trans hs⟩
    exact hr b hb (hbs.trans hcs)

lemma Attempt.unrivalled_start (h : Attempt executes t₀ c₀ past t c) :
    t₀.Unrivalled executes c₀ := by
  induction h with
  | nil h => exact h
  | other _ _ _ _ ih | direct _ _ _ ih | own _ _ _ ih => exact ih

/-- A table that is set aside when the start begins is so as long as it goes on. -/
lemma Attempt.aside (h : Attempt executes t₀ c₀ past t c) (hp : t₀.Proper) {u : TableId}
    (hu : t₀.Aside c₀.session u) : t.Aside c₀.session u := by
  induction h with
  | nil => exact hu
  | other h hs _ _ ih => exact ih.step (h.proper hp) hs
  | direct h hd ho ih =>
    rw [(h.unrivalled hp).2] at ho
    exact ih.direct hd ho
  | own h hu _ ih => exact ih.advance (h.proper hp) hu

/-! ### Before the start enters its session -/

/-- What was locked for the stale query is in the charge of the session's state or of an abort, if
the session still owns it; and if there is a record of the stale query, it is still active or about
to be swept. -/
structure Ahead (id : SessionId) (s₀ : Session) (t : Traffic) : Prop where
  inCharge : InCharge (fun i u => i = id → u ∉ s₀.lockedTables) t
  answered : ∀ s, t.world.session? id = some s →
    ∀ k ∈ s₀.keys, Answered t.world s (t.within id) k

/-- What changes neither sessions nor statuses nor the session's tables changes nothing for the
stale query. -/
lemma Ahead.congr (h : Ahead id s₀ t) {w : World MemoryHost} (hs : w.sessions = t.world.sessions)
    (ho : ∀ u, w.host.locks.owner u = some id ↔ t.world.host.locks.owner u = some id)
    (hst : ∀ k, w.service.status? k = t.world.service.status? k) :
    Ahead id s₀ ⟨w, t.underway⟩ := by
  have hsess (i : SessionId) : w.session? i = t.world.session? i := by
    unfold World.session?
    rw [hs]
  constructor
  · intro i u hi
    by_cases hne : i = id
    · subst hne
      refine (h.inCharge i u ((ho u).1 hi)).imp_left ?_
      rintro ⟨s, hs, hu⟩
      exact ⟨s, (hsess i).trans hs, hu⟩
    · exact .inr (.inr fun he => absurd he hne)
  · intro s hs k hk
    have hs : w.session? id = some s := hs
    rw [hsess] at hs
    exact (h.answered s hs k hk).elsewhere (.inl (hst k))

/-- Whatever happens beside the start changes nothing for the stale query but that an abort may take
care of it. -/
lemma Ahead.step (h : Ahead id s₀ t) (hp : t.Proper) (hs₀ : ∀ k ∈ s₀.keys, k.session = id)
    (ht : t.Unrivalled executes c) (hc : c.session = id) (hs : Step t e t')
    (he : e ≠ .advanced (.start c executes)) : Ahead id s₀ t' := by
  cases hs with
  | opened kind =>
    refine ⟨h.inCharge.openSession hp kind, fun s hs k hk => ?_⟩
    have hs : (t.world.openSession kind).2.session? id = some s := hs
    rw [hp.session?_openSession] at hs
    split_ifs at hs with hid
    · -- The session is open already, so it is not the new one.
      obtain ⟨rest, hu, -⟩ := ht
      obtain ⟨s, -, hs, -⟩ := hp.start_move hu
      rw [hc, hid, hp.session?_new] at hs
      cases hs
    · exact (h.answered s hs k hk).elsewhere (Status.MayAdmit.refl _)
  | @begun a ha =>
    refine ⟨h.inCharge.congr rfl rfl (Multiset.le_cons_self _ _), fun s hs k hk => ?_⟩
    show Answered _ _ (Activity.ofSession id (a ::ₘ t.underway)) k
    by_cases hne : a.session = id
    · rw [Activity.ofSession_cons hne]
      exact (h.answered s hs k hk).begin ha
    · rw [Activity.ofSession_cons_ne hne]
      exact h.answered s hs k hk
  | @advanced b others hu =>
    have hb : b ≠ .start c executes := fun hb => he (by rw [hb])
    constructor
    · refine h.inCharge.advance hp hu fun s u hs hov hid => ?_
      -- A start that overwrites another query is in another session.
      exfalso
      have hns := (ht.beside hu hb (hid.trans hc.symm)).1
      cases b with
      | start => cases hns
      | entering | inside | finish | abort | utility => exact hov
    · intro s₁ hs₁ k hk
      obtain ⟨s, hs⟩ := hp.session?_of_mem (hu ▸ Multiset.mem_cons_self b others)
      obtain ⟨s', hm⟩ := Activity.move_advance hs
      have moved (s₁ : Session) (hs₁ : (b.advance t.world).1.session? id = some s₁) :
          Answered (b.advance t.world).1 s₁
            (Activity.ofSession id (Activity.after (b.advance t.world).2.call? others)) k := by
        by_cases hne : id = b.session
        · subst hne
          rw [hm.session?_eq hs] at hs₁
          cases hs₁
          rw [Activity.ofSession_after fun b' hb' => (hm.same hb').1]
          have hans := h.answered s hs k hk
          rw [within, hu, Activity.ofSession_cons rfl] at hans
          have hns := (ht.beside hu hb hc.symm).1
          refine (hp.regular_cons hu hs).advance_answered hp.sound hm
            (Activity.vacant_of_isStart hns s) ?_ hans
          exact (hs₀ k hk).trans (World.id_of_session? hs).symm
        · rw [hm.session?_ne hne] at hs₁
          obtain ⟨hacts, -, hst⟩ := hp.others hu hs hm hne
          rw [hacts]
          exact (h.answered s₁ hs₁ k hk).elsewhere (hst k (hs₀ k hk))
      rcases t.advance_eq b others with heq | ⟨hn, -, heq⟩
      · rw [heq] at hs₁ ⊢
        exact moved s₁ hs₁
      · rw [hn] at moved
        rw [heq] at hs₁ ⊢
        have hs₁ : ((b.advance t.world).1.forget b.session).session? id = some s₁ := hs₁
        rw [World.session?_forget] at hs₁
        split_ifs at hs₁
        exact (moved s₁ hs₁).elsewhere (Status.MayAdmit.refl _)
  | raised signal => cases signal <;> exact h.congr rfl (fun _ => Iff.rfl) fun _ => rfl
  | shutDown | indexed => exact h.congr rfl (fun _ => Iff.rfl) fun _ => rfl

/-! ### After the start has entered its session -/

/-- Around the start, nothing is left of the stale query but what the start has in its hands and
answers for, and so it is with the tables that the start took itself. -/
structure Beyond (s₀ : Session) (took : TableId → Prop) (t : Traffic) (c : Start) : Prop where
  entered : c.phase ≠ .entering
  undisturbed : Undisturbed (fun u => u ∈ s₀.lockedTables ∨ took u) t c
  stale : ∀ k ∈ s₀.keys, k ∈ c.keys ∨ t.world.service.status? k = none

lemma Beyond.step (h : Beyond s₀ took t c) (hp : t.Proper)
    (hs₀ : ∀ k ∈ s₀.keys, k.session = c.session) (ht : t.Sole (.start c executes))
    (hs : Step t e t') (he : e ≠ .advanced (.start c executes)) : Beyond s₀ took t' c where
  entered := h.entered
  undisturbed := h.undisturbed.step hp ht hs he
  stale k hk := (h.stale k hk).imp_right (ht.status?_eq_none hp hs he (hs₀ k hk))

lemma Beyond.direct {other : SessionId} (h : Beyond s₀ took t c) (hd : Direct other t t')
    (ho : other ≠ c.session) : Beyond s₀ took t' c := by
  obtain ⟨locks, rfl, hl⟩ := hd.eq_setLocks
  refine ⟨h.entered, h.undisturbed.congr (fun s hs => ⟨s, hs, id⟩) fun u => ?_, h.stale⟩
  exact (hl u c.session ho.symm).1

/-- A section of the start itself, if the start goes on. -/
lemma Beyond.own (h : Beyond s₀ took t c) (hp : t.Proper)
    (hu : t.underway = .start c executes ::ₘ rest) (hc : (c.advance t.world).2.call? = some c') :
    Beyond s₀ (fun u => took u ∨ u ∈ c.taken) (t.advance (.start c executes) rest) c' := by
  obtain ⟨s, s', hs, hfits, hm⟩ := hp.start_move hu
  have hv : s.active = none := h.undisturbed.vacant h.entered s hs
  have hdist := h.undisturbed.own hp hu hc
  rw [advance_start hc] at hdist ⊢
  refine ⟨hm.entered_of hc h.entered, ⟨hdist.vacant, fun u hu => ?_⟩, fun k hk => ?_⟩
  · exact hdist.given u (or_assoc.2 hu)
  · by_cases hkc : k ∈ c.keys
    · by_cases hkc' : k ∈ c'.keys
      · exact .inl hkc'
      · right
        refine hm.dropped hfits.coherent hfits.fits hkc ?_
        rw [hc, Session.keys_of_none (hm.vacant hc (fun _ => hv) (hm.entered_of hc h.entered)),
          zero_add]
        exact hkc'
    · right
      have hn := (h.stale k hk).resolve_left hkc
      exact (hm.mayAdmit hp.sound hfits.coherent hkc).eq_none.2 hn

/-- When the start enters its session, all that is left of the stale query comes into its hands. -/
lemma Ahead.own (h : Ahead c.session s₀ t) (hp : t.Proper) (ht : t.Unrivalled executes c)
    (hq : c.phase = .entering) (hu : t.underway = .start c executes ::ₘ rest)
    (hc : (c.advance t.world).2.call? = some c') :
    c' = c ∧ t.advance (.start c executes) rest = t ∨
      Beyond s₀ (fun _ => False) (t.advance (.start c executes) rest) c' := by
  obtain ⟨s, s', hs, hfits, hm⟩ := hp.start_move hu
  -- While the session is not guarded, nobody else has tables in his hands, or answers for a key.
  have quiet (hg : s.guarded = false) (b : Activity) (hb : b ∈ t.within c.session) :
      b.keys = 0 ∧ b.taken = [] ∧ b.sweeps = 0 := by
    have hr := hp.present c.session s hs
    refine ⟨?_, ?_, hr.sweeps_eq_zero hg hb⟩
    all_goals
      by_cases hbc : b = .start c executes
      · rw [hbc]
        simp [Activity.keys, Activity.taken, Start.keys, Start.taken, hq]
      obtain ⟨hmem, hbs⟩ := Activity.mem_ofSession.1 hb
      obtain ⟨others, ho⟩ := Multiset.exists_cons_of_mem hmem
      obtain ⟨hns, hnf⟩ := ht.beside ho hbc hbs
      obtain ⟨hk, htaken⟩ := Activity.keys_taken_of_not hns hnf
    · exact hk
    · exact htaken (hr.guards_eq_zero hg hb)
  have hin := h.inCharge c.session
  have hans := h.answered s hs
  have hs' := hm.session?_eq hs
  rw [advance_start hc]
  generalize (c.advance t.world).1 = w' at hm hs'
  generalize (c.advance t.world).2 = p at hm hc
  cases hm with
  | ignored | refused | installed | failed => cases hc
  | returned hq' | finished hq' | asked hq' | registered hq' | admission hq' | approved hq'
  | denied hq' | unlocked hq' =>
    rw [hq] at hq'
    cases hq'
  | barred =>
    cases hc
    left
    refine ⟨rfl, ?_⟩
    rw [← hu]
  | entered _ hg =>
    cases hc
    right
    refine ⟨?_, ⟨fun _ s₁ hs₁ => ?_, fun u htook ho => ?_⟩, fun k hk => ?_⟩
    · rcases s.active with _ | q <;> exact Start.Phase.noConfusion
    · cases Option.some.inj (hs₁.symm.trans hs')
      rfl
    · have hlocked : u ∈ s₀.lockedTables := htook.resolve_right id
      rcases hin u ho with ⟨s₁, hs₁, hl⟩ | ⟨b, hb, hl⟩ | hl
      · rw [hs] at hs₁
        cases hs₁
        rcases ha : s.active with _ | q
        · rw [Session.lockedTables_of_none ha] at hl
          cases hl
        · simpa [Start.taken, Start.inPhase, Start.Phase.afterEntry, Session.lockedTables, ha]
            using hl
      · rw [(quiet hg b hb).2.1] at hl
        cases hl
      · exact absurd hlocked (hl rfl)
    · by_cases hst : t.world.service.status? k = none
      · exact .inr hst
      · left
        rcases hans k hk hst with hk' | ⟨b, hb, hsw⟩
        · rcases Multiset.mem_add.1 hk' with hk' | hk'
          · obtain ⟨locked, ha⟩ := Session.mem_keys.1 hk'
            simp [Start.keys, Start.inPhase, Start.Phase.afterEntry, ha]
          · obtain ⟨b, hb, hkb⟩ := Multiset.mem_bind.1 hk'
            rw [(quiet hg b hb).1] at hkb
            exact absurd hkb (Multiset.notMem_zero k)
        · rw [(quiet hg b hb).2.2] at hsw
          exact absurd hsw (Nat.lt_irrefl 0)

/-- As long as the start goes on, it has not entered its session yet, or it is beyond that. -/
lemma Attempt.ahead_or_beyond (h : Attempt executes t₀ c₀ past t c) (hp : t₀.Proper)
    (h₀ : c₀.phase = .entering) (hs₀ : ∀ k ∈ s₀.keys, k.session = c₀.session)
    (ha : Ahead c₀.session s₀ t₀) :
    (c.phase = .entering ∧ (∀ d ∈ past, d.phase = .entering) ∧ Ahead c.session s₀ t) ∨
      Beyond s₀ (fun u => ∃ d ∈ past, u ∈ d.taken) t c := by
  induction h with
  | nil => exact .inl ⟨h₀, by simp, ha⟩
  | other h hs he _ ih =>
    obtain ⟨ht, hcs⟩ := h.unrivalled hp
    rw [← hcs] at hs₀
    refine ih.imp ?_ fun hb => hb.step (h.proper hp) hs₀ ht.sole hs he
    rintro ⟨hq, hpast, ha⟩
    exact ⟨hq, hpast, ha.step (h.proper hp) hs₀ ht rfl hs he⟩
  | @direct past t t' c other h hd ho ih =>
    refine ih.imp ?_ fun hb => hb.direct hd ho
    rintro ⟨hq, hpast, ha⟩
    obtain ⟨locks, rfl, hl⟩ := hd.eq_setLocks
    exact ⟨hq, hpast, ha.congr rfl (fun u => hl u c.session ho.symm) fun _ => rfl⟩
  | @own past t c c' rest h hu hc ih =>
    have hpt := h.proper hp
    have snoc {P : Start → Prop} (hpast : ∀ d ∈ past, P d) (hc : P c) : ∀ d ∈ past ++ [c], P d := by
      simpa [or_imp, forall_and] using ⟨hpast, hc⟩
    rcases ih with ⟨hq, hpast, ha⟩ | hb
    · rcases ha.own hpt (h.unrivalled hp).1 hq hu hc with ⟨rfl, ht⟩ | hb
      · left
        rw [ht]
        exact ⟨hq, snoc hpast hq, ha⟩
      · -- So far, the start has not had anything in its hands.
        right
        have hnone (u : TableId) : (∃ d ∈ past ++ [c], u ∈ d.taken) ↔ False := by
          refine iff_false_intro ?_
          rintro ⟨d, hd, hu⟩
          rw [Start.taken, snoc hpast hq d hd] at hu
          cases hu
        simpa only [hnone] using hb
    · right
      have hb' := hb.own hpt hu hc
      have hsnoc (u : TableId) :
          (∃ d ∈ past ++ [c], u ∈ d.taken) ↔ (∃ d ∈ past, u ∈ d.taken) ∨ u ∈ c.taken := by
        simp [or_and_right, exists_or]
      simpa only [hsnoc] using hb'

lemma ahead_of_session? (hs : t.world.session? id = some s) : Ahead id s t := by
  constructor
  · intro i u _
    by_cases hi : i = id
    · subst hi
      by_cases hu : u ∈ s.lockedTables
      · exact .inl ⟨s, hs, hu⟩
      · exact .inr (.inr fun _ => hu)
    · exact .inr (.inr fun he => absurd he hi)
  · intro s₁ hs₁ k hk _
    cases Option.some.inj (hs.symm.trans hs₁)
    exact .inl (Multiset.mem_add.2 (.inl hk))

/-! ### How a start fails -/

/-- How a start ends that is refused beyond the entry of its session. -/
lemma Beyond.ended (h : Beyond s₀ took t c) (hp : t.Proper)
    (hu : t.underway = .start c executes ::ₘ rest) {r : Refusal}
    (hr : (c.advance t.world).2 = .done (.error r)) :
    let t' := t.advance (.start c executes) rest
    (∃ s, t'.world.session? c.session = some s ∧ s.active = none) ∧
      (∀ k ∈ c.keys, t'.world.service.status? k = none) ∧
      (∀ k ∈ s₀.keys, t'.world.service.status? k = none) ∧
      ∀ u, (u ∈ s₀.lockedTables ∨ took u) ∨ u ∈ c.taken →
        t'.world.host.locks.owner u ≠ some c.session := by
  intro t'
  obtain ⟨s, s', hs, hfits, hm⟩ := hp.start_move hu
  obtain ⟨hidle, howns⟩ := h.undisturbed.ended hp hu h.entered hr
  have hown (k : QueryKey) (hk : k ∈ c.keys) : t'.world.service.status? k = none := by
    show (t.advance _ _).world.service.status? k = none
    rw [advance_refused hr]
    exact hm.status?_of_refused hfits hr (h.undisturbed.vacant h.entered s hs) hk
  refine ⟨hidle, hown, fun k hk => ?_, howns⟩
  by_cases hkc : k ∈ c.keys
  · exact hown k hkc
  · show (t.advance _ _).world.service.status? k = none
    rw [advance_refused hr]
    have hn := (h.stale k hk).resolve_left hkc
    exact (hm.mayAdmit hp.sound hfits.coherent hkc).eq_none.2 hn

/-- A start that is refused, at whatever station and for whatever reason, with anything in between
that other sessions may do or that aborts of its own session may do. Afterwards no query is active
in the session, and there is no record of the start's query. The session owns none of the tables
that the start ever had in its hands. If a stale query was active before, then neither its record
nor its locks are left. What the session owned besides, with nobody about to give it back, it still
owns. -/
theorem failed_start {settings : Settings} {service : Service}
    (hb : Service.build settings = .ok service) {index : ViewIndex}
    (hhist : History anyKind (ofService service index) t₀) (h₀ : c₀.phase = .entering)
    (hs₀ : t₀.world.session? c₀.session = some s₀) (hc : Attempt executes t₀ c₀ past t c)
    (hu : t.underway = .start c executes ::ₘ rest) {r : Refusal}
    (hr : (c.advance t.world).2 = .done (.error r)) :
    let t' := t.advance (.start c executes) rest
    (∃ s, t'.world.session? c₀.session = some s ∧ s.active = none) ∧
      (∃ k, c.queryKey? = some k ∧ t'.world.service.status? k = none) ∧
      (∀ d ∈ past ++ [c], ∀ u ∈ d.taken, t'.world.host.locks.owner u ≠ some c₀.session) ∧
      (∀ q, s₀.active = some q → t'.world.service.status? q.key = none ∧
        ∀ u ∈ q.locked, t'.world.host.locks.owner u ≠ some c₀.session) ∧
      ∀ u, t₀.world.host.locks.owner u = some c₀.session → u ∉ s₀.lockedTables →
        (∀ a ∈ t₀.within c₀.session, u ∉ a.taken) →
        t'.world.host.locks.owner u = some c₀.session := by
  intro t'
  have hp₀ : t₀.Proper := hhist.proper (proper_ofService hb index)
  have hp := hc.proper hp₀
  obtain ⟨ht, hcs⟩ := hc.unrivalled hp₀
  have hkeys (k : QueryKey) (hk : k ∈ s₀.keys) : k.session = c₀.session := by
    rw [((hp₀.present _ s₀ hs₀).bounded_active hk).1]
    exact World.id_of_session? hs₀
  have hbeyond : Beyond s₀ (fun u => ∃ d ∈ past, u ∈ d.taken) t c := by
    refine (hc.ahead_or_beyond hp₀ h₀ hkeys (ahead_of_session? hs₀)).resolve_left ?_
    rintro ⟨hq, -, -⟩
    obtain ⟨s, s', -, -, hm⟩ := hp.start_move hu
    exact hm.entered_of_refused hr hq
  obtain ⟨hidle, hown, hstale, howns⟩ := hbeyond.ended hp hu hr
  rw [hcs] at hidle howns
  refine ⟨hidle, ?_, ?_, ?_, ?_⟩
  · obtain ⟨k, hk⟩ := Option.isSome_iff_exists.1 (Start.queryKey?_isSome.2 hbeyond.entered)
    exact ⟨k, hk, hown k (Start.mem_keys_of_queryKey? hk)⟩
  · intro d hd u hu
    apply howns
    rcases List.mem_append.1 hd with hd | hd
    · exact .inl (.inr ⟨d, hd, hu⟩)
    · rw [List.mem_singleton.1 hd] at hu
      exact .inr hu
  · intro q hq
    refine ⟨hstale q.key (Session.mem_keys.2 ⟨q.locked, hq⟩), fun u hu => howns u (.inl (.inl ?_))⟩
    rw [Session.lockedTables, hq]
    exact hu
  · intro u ho hl hn
    have haside : t₀.Aside c₀.session u := by
      refine ⟨ho, fun s hs => ?_, fun a ha => ?_⟩
      · cases Option.some.inj (hs₀.symm.trans hs)
        exact hl
      · obtain ⟨hmem, hsess⟩ := Activity.mem_ofSession.1 ha
        by_cases hne : a = .start c₀ executes
        · rw [hne]
          exact Activity.not_handles_of_isFresh (Activity.isFresh_start.2 h₀)
        · obtain ⟨others, ho⟩ := Multiset.exists_cons_of_mem hmem
          rw [Activity.handles_iff (hc.unrivalled_start.beside ho hne hsess).1]
          exact hn a ha
    exact ((hc.aside hp₀ haside).advance hp hu).owned

/-- A start may go on with nothing between its own sections. -/
lemma Attempt.onward (n : Nat) {w : World MemoryHost}
    (h : Attempt executes t₀ c₀ past ⟨w, .start c executes ::ₘ rest⟩ c) :
    Attempt executes t₀ c₀ (past ++ stations n w c)
      ⟨(onward n w c).1, .start (onward n w c).2 executes ::ₘ rest⟩ (onward n w c).2 := by
  induction n generalizing w c past with
  | zero =>
    rw [stations, List.append_nil]
    exact h
  | succ n ih =>
    rw [Traffic.onward, stations]
    cases hc : (c.advance w).2.call? with
    | none =>
      rw [List.append_nil]
      exact h
    | some c' =>
      have hnext := h.own rfl hc
      rw [advance_start hc] at hnext
      have hmore := ih hnext
      rwa [List.append_assoc] at hmore

/-- A start finds a stale query with a lock on the first one of its tables. Its transaction holds a
second one already, and another session holds the third one. The start has taken the first one when
its record is swept away. It notices only after it has been refused the third one. -/
theorem failed_start_in_pass :
    let service := Service.ofSettings ⟨2, 4, 2, .ofNanos 30000⟩
    let index := (ViewIndex.empty.register 1 [10]).register 2 [30, 10, 20]
    ∃ t₀ c₀ past t c rest,
      History anyKind (ofService service index) t₀ ∧ c₀.phase = .entering ∧
        (∃ s, t₀.world.session? 1 = some s ∧ s.active = some ⟨⟨1, 1⟩, [10]⟩) ∧
        Attempt false t₀ c₀ past t c ∧ (∃ d ∈ past, d.queryKey? = some ⟨1, 2⟩ ∧ d.taken = [10]) ∧
        t.underway = .start c false ::ₘ rest ∧
        (c.advance t.world).2 = .done (.error (.aborted ⟨1, 2⟩)) ∧
        let t' := t.advance (.start c false) rest
        (∃ s, t'.world.session? 1 = some s ∧ s.active = none) ∧
          t'.world.service.status? ⟨1, 1⟩ = none ∧ t'.world.service.status? ⟨1, 2⟩ = none ∧
          t'.world.host.locks.owner 10 ≠ some 1 ∧ t'.world.host.locks.owner 30 = some 1 := by
  intro service index
  have hb : Service.build ⟨2, 4, 2, .ofNanos 30000⟩ = .ok service := rfl
  have hp := proper_ofService hb index
  let query : Query := ⟨"select", 2, [2], false, false⟩
  let stale : Activity := .start (.ofQuery 1 ⟨"select", 1, [1], false, false⟩) false
  let c₀ : Start := .ofQuery 1 query
  let begun : Activity := .start c₀ false
  let a : Admission := ⟨⟨1, 2⟩, [30, 10, 20], .session 1, .locking (.asking 20 [] [10])⟩
  let c : Start := ⟨1, query, .admitting ⟨1, 2⟩ a⟩
  let c' : Start := ⟨1, query, .admitting ⟨1, 2⟩ (a.inPhase (.waiting (.ofKey ⟨1, 2⟩ (.session 1))))⟩
  let taking : Activity := .abort (.ofSession 1) false
  let sweeping : Activity := .abort ⟨1, .releasing []⟩ false
  let opened := ((ofService service index).world.openSession .backend).2
  let both := (opened.openSession .backend).2
  let active := (sections 12 both stale).1
  let held : Traffic := (⟨active, 0⟩ : Traffic).setLocks (active.host.locks.attempt 1 30).2
  let taken : Traffic := held.setLocks (held.world.host.locks.attempt 2 20).2
  let passing := onward 9 taken.world c₀
  let t₁ : Traffic := ⟨passing.1, taking ::ₘ {.start c false}⟩
  let t₂ := t₁.advance taking {.start c false}
  let swept := t₂.advance sweeping {.start c false}
  let refused := onward 4 swept.world c
  have hover : (sections 12 both stale).2 = none := by decide +kernel
  have hs₀ : taken.world.session? 1
      = some ⟨1, .backend, 0, false, 1, some ⟨⟨1, 1⟩, [10]⟩, false⟩ := by
    decide +kernel
  have howned : taken.world.host.locks.owner 30 = some 1 := by decide +kernel
  have hpassing : passing.2 = c := by decide +kernel
  have hopen : passing.1.session? 1 ≠ none := by decide +kernel
  have hu₂ : t₂.underway = sweeping ::ₘ {.start c false} := by decide +kernel
  have hu₃ : swept.underway = {.start c false} := by decide +kernel
  have hrefused : refused.2 = c' := by decide +kernel
  have htook : ∃ d ∈ stations 4 swept.world c, d.queryKey? = some ⟨1, 2⟩ ∧ d.taken = [10] := by
    decide +kernel
  have hr : (c'.advance refused.1).2 = .done (.error (.aborted ⟨1, 2⟩)) := by decide +kernel
  -- The stale query is started, and its end is never reported.
  have h₁ : Run anyKind (ofService service index) _ ⟨opened, 0⟩ :=
    .snoc .nil (.opened .backend) (oneByOne_anyKind _)
  have h₂ : Run anyKind (ofService service index) _ ⟨both, 0⟩ :=
    h₁.snoc (.opened .backend) (oneByOne_anyKind _)
  have h₃ := h₂.begin (a := stale) rfl (by decide) (by simp) (oneByOne_anyKind _)
  have hsort (a b : Activity) (w : World MemoryHost) (_ : True)
      (_ : (a.advance w).2.call? = some b) : True ∧ (anyKind b → anyKind a) := ⟨trivial, id⟩
  have h₄ := (h₃.sections hp rfl hsort 12 trivial rfl).history
  rw [hover] at h₄
  clear_value opened
  have h₅ : History anyKind (ofService service index) ⟨active, 0⟩ := h₄
  clear_value active
  -- The transactions take tables, and then the start begins.
  have h₆ : History anyKind (ofService service index) taken :=
    (h₅.direct (.lock 30)).direct (.lock 20)
  have hhist : History anyKind (ofService service index) ⟨taken.world, begun ::ₘ 0⟩ := by
    refine h₆.step (.begun rfl ?_ (by simp [taken, held, setLocks])) (oneByOne_anyKind _)
    rw [show taken.world.session? begun.session = _ from hs₀]
    exact Option.some_ne_none _
  have h₇ : Attempt false ⟨taken.world, {begun}⟩ c₀ (stations 9 taken.world c₀)
      ⟨passing.1, {.start passing.2 false}⟩ passing.2 := Attempt.onward 9 (.nil ⟨0, rfl, by simp⟩)
  rw [hpassing] at h₇
  clear_value passing
  -- An abort comes in between.
  have hunrivalled (t : Traffic) {b : Activity} (hs : b.isStart = false) (hf : b.isFinish = false)
      (ht : t.underway = b ::ₘ {.start c false}) : t.Unrivalled false c := by
    refine ⟨{b}, by rw [ht]; exact Multiset.cons_swap _ _ _, fun x hx _ => ?_⟩
    rw [Multiset.mem_singleton.1 hx]
    exact ⟨hs, hf⟩
  have h₈ : Attempt false _ c₀ _ t₁ c :=
    h₇.other (.begun rfl hopen (by simp [Activity.closes, Activity.session, taking,
      Abort.ofSession]))
      (by simp) (hunrivalled t₁ rfl rfl rfl)
  have h₉ : Attempt false _ c₀ _ t₂ c :=
    h₈.other (.advanced rfl) (by simp [taking]) (hunrivalled t₂ rfl rfl hu₂)
  have h₁₀ : Attempt false _ c₀ _ swept c :=
    h₉.other (.advanced hu₂) (by simp [sweeping]) ⟨0, hu₃, by simp⟩
  have hswept : swept = ⟨swept.world, {.start c false}⟩ := by rw [← hu₃]
  rw [hswept] at h₁₀
  have h₁₁ : Attempt false _ c₀ _ ⟨refused.1, {.start refused.2 false}⟩ refused.2 := h₁₀.onward 4
  rw [hrefused] at h₁₁
  clear_value refused
  obtain ⟨hidle, ⟨k, hk, hgone⟩, hgiven, hstale, hkept⟩ :=
    failed_start hb hhist rfl hs₀ h₁₁ (show _ = Activity.start c' false ::ₘ 0 from rfl) hr
  cases hk
  obtain ⟨hsgone, hsgiven⟩ := hstale _ rfl
  refine ⟨_, c₀, _, _, c', 0, hhist, rfl, ⟨_, hs₀, rfl⟩, h₁₁, ?_, rfl, hr, hidle, hsgone, hgone,
    hsgiven 10 (by simp), hkept 30 howned (by decide) ?_⟩
  · obtain ⟨d, hd, hkd⟩ := htook
    exact ⟨d, List.mem_append_right _ hd, hkd⟩
  · rintro b hb
    obtain ⟨hb, -⟩ := Activity.mem_ofSession.1 hb
    rw [Multiset.mem_singleton.1 hb]
    exact List.not_mem_nil

end Traffic

end QueryAdmission
