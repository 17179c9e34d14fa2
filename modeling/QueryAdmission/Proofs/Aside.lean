import QueryAdmission.Proofs.History

/-!
# Tables that are set aside

A table that a session owns without any call or the session's active query being in charge of it is
set aside: it belongs to the transaction around the queries. No call on any session ever touches it
(`Activity.Move.aside`), since lock passes skip what the session owns already, and all that is ever
given back is what a call has in its hands. So it stays set aside whatever happens in traffic
(`Traffic.Aside.step`), until the session itself frees it.
-/

namespace QueryAdmission

variable {u : TableId}

/-! ### Sections that leave a table alone -/

/-- A pass that has the table in its hands, or is about to take it. -/
def LockPass.Handles (u : TableId) (p : LockPass) : Prop :=
  u ∈ p.taken ∨ ∃ left taken, p = attempting u left taken

/-- An admission that has the table in its hands, or is about to take it. -/
def Admission.Handles (u : TableId) (a : Admission) : Prop :=
  u ∈ a.taken ∨ ∃ pass, a.phase = .locking pass ∧ pass.Handles u

/-- A start that has the table in its hands, or is about to take it. -/
def Start.Handles (u : TableId) (c : Start) : Prop :=
  u ∈ c.taken ∨ ∃ key a, c.phase = .admitting key a ∧ a.Handles u

/-- An activity that has the table in its hands, or is about to take it. -/
def Activity.Handles (u : TableId) : Activity → Prop
  | start c _ => c.Handles u
  | a => u ∈ a.taken

namespace LockPass

variable {s : SessionId} {l l' : LockTable} {p p' : LockPass}

lemma handles_proceed {left taken : List TableId} : (proceed left taken).Handles u ↔ u ∈ taken := by
  have ht : u ∈ (proceed left taken).taken ↔ u ∈ taken := by
    rw [← List.count_pos_iff, count_taken_proceed, List.count_pos_iff]
  constructor
  · rintro (h | ⟨_, _, h⟩)
    · exact ht.1 h
    · cases left <;> cases h
  · exact fun h => .inl (ht.2 h)

lemma handles_undo {refused : TableId} {taken : List TableId} :
    (undo refused taken).Handles u ↔ u ∈ taken := by
  constructor
  · rintro (h | ⟨_, _, h⟩)
    · rwa [taken_undo] at h
    · cases taken <;> cases h
  · intro h
    left
    rwa [taken_undo]

lemma Contact.aside (h : Contact s l p l' p') (ho : l.owner u = some s) (hn : ¬p.Handles u) :
    l'.owner u = some s ∧ ¬p'.Handles u := by
  have ht (t : TableId) (left taken : List TableId) (hp : p = attempting t left taken) : u ≠ t := by
    rintro rfl
    exact hn (.inr ⟨left, taken, hp⟩)
  cases h with
  | @skipped t left taken =>
    refine ⟨ho, fun h => hn (.inl ?_)⟩
    exact handles_proceed.1 h
  | @asked t left taken hl =>
    refine ⟨ho, ?_⟩
    rintro (h | ⟨_, _, h⟩)
    · exact hn (.inl h)
    · cases h
      exact hl ho
  | @locked t left taken =>
    have hne := ht t left taken rfl
    constructor
    · rw [LockTable.owner_attempt, if_neg fun h => hne h.1]
      exact ho
    · rw [handles_proceed, List.mem_cons, not_or]
      exact ⟨hne, fun h => hn (.inl h)⟩
  | refused =>
    refine ⟨ho, fun h => hn (.inl ?_)⟩
    exact handles_undo.1 h
  | @returned t refused left =>
    have hnt : u ∉ t :: left := fun h => hn (.inl h)
    constructor
    · rw [LockTable.owner_unlock, if_neg fun h => List.ne_of_not_mem_cons hnt h.1]
      exact ho
    · rw [handles_undo]
      exact fun h => hnt (List.mem_cons_of_mem t h)

end LockPass

lemma LockTable.owner_unlock_of_notMem {l : LockTable} {s : SessionId} {t : TableId}
    {ts : List TableId} (ho : l.owner u = some s) (hn : u ∉ t :: ts) :
    (l.unlock s t).owner u = some s ∧ u ∉ ts := by
  rw [List.mem_cons, not_or] at hn
  rw [LockTable.owner_unlock, if_neg fun h => hn.1 h.1]
  exact ⟨ho, hn.2⟩

section Sections

variable {w w' : World MemoryHost} {s s' : Session}

lemma Admission.Move.aside {a : Admission} {p : Progress Admission (Except Refusal (List TableId))}
    (h : a.Move w w' p) (ho : w.host.locks.owner u = some a.key.session) (hn : ¬a.Handles u) :
    w'.host.locks.owner u = some a.key.session ∧ u ∉ keeps p ∧
      ∀ a', p.call? = some a' → ¬a'.Handles u := by
  have hpass (pass : LockPass) (hp : a.phase = .locking pass) : ¬pass.Handles u :=
    fun h => hn (.inr ⟨pass, hp, h⟩)
  have waits (a' : Admission) (c : Wait) (hp : a'.phase = .waiting c) : ¬a'.Handles u := by
    simp [Handles, taken, hp]
  have passes (a' : Admission) (pass : LockPass) (hp : a'.phase = .locking pass)
      (h : ¬pass.Handles u) : ¬a'.Handles u := by
    simpa [Handles, taken, hp, LockPass.Handles] using h
  have undoes (a' : Admission) (left : List TableId) (hp : a'.phase = .undoing left)
      (h : u ∉ left) : ¬a'.Handles u := by
    simpa [Handles, taken, hp] using h
  cases h with
  | gone | departed | failed => exact ⟨ho, List.not_mem_nil, by rintro _ ⟨⟩⟩
  | queued | called | slept | retreated =>
    refine ⟨ho, List.not_mem_nil, ?_⟩
    rintro _ ⟨⟩
    exact waits _ _ rfl
  | granted =>
    have hp : ¬(LockPass.ofTables a.tables).Handles u := by
      rw [LockPass.ofTables, LockPass.handles_proceed]
      exact List.not_mem_nil
    refine ⟨ho, fun h => hp (.inl h), ?_⟩
    rintro _ ⟨⟩
    exact passes _ _ rfl hp
  | contact hp hc =>
    obtain ⟨ho', hn'⟩ := hc.aside ho (hpass _ hp)
    refine ⟨ho', fun h => hn' (.inl h), ?_⟩
    rintro _ ⟨⟩
    exact passes _ _ rfl hn'
  | began hp => exact ⟨ho, fun h => hpass _ hp (.inl h), by rintro _ ⟨⟩⟩
  | @lost tables hp =>
    have ht : u ∉ tables.reverse := by
      rw [List.mem_reverse]
      exact fun h => hpass _ hp (.inl h)
    refine ⟨ho, ht, ?_⟩
    rintro _ ⟨⟩
    exact undoes _ _ rfl ht
  | @returned t ts hp =>
    have ht : u ∉ t :: ts := fun h => hn (.inl (by simpa only [taken, hp] using h))
    obtain ⟨ho', ht'⟩ := LockTable.owner_unlock_of_notMem ho ht
    refine ⟨ho', ht', ?_⟩
    rintro _ ⟨⟩
    exact undoes _ _ rfl ht'

lemma Start.Move.aside {c : Start} {p : Progress Start (Except Refusal (Option QueryKey))}
    (h : c.Move w s w' s' p) (hc : c.Native) (ho : w.host.locks.owner u = some c.session)
    (hs : u ∉ s.lockedTables) (hn : ¬c.Handles u) :
    w'.host.locks.owner u = some c.session ∧ u ∉ s'.lockedTables ∧
      ∀ c', p.call? = some c' → ¬c'.Handles u := by
  have hands (c' : Start) (ht : u ∉ c'.taken) (hp : ∀ key a, c'.phase ≠ .admitting key a) :
      ¬c'.Handles u := by
    rintro (h | ⟨key, a, h, -⟩)
    · exact ht h
    · exact hp key a h
  have hnt : u ∉ c.taken := fun h => hn (.inl h)
  cases h with
  | barred =>
    refine ⟨ho, hs, ?_⟩
    rintro _ ⟨⟩
    exact hn
  | ignored | refused | failed => exact ⟨ho, hs, by rintro _ ⟨⟩⟩
  | entered =>
    refine ⟨ho, List.not_mem_nil, ?_⟩
    rintro _ ⟨⟩
    rcases ha : s.active with _ | q
    · exact hands _ List.not_mem_nil (by rintro key a ⟨⟩)
    · refine hands _ ?_ (by rintro key a ⟨⟩)
      simpa [taken, inPhase, Phase.afterEntry, Session.lockedTables, ha] using hs
  | returned hp =>
    rw [taken, hp] at hnt
    obtain ⟨ho', ht'⟩ := LockTable.owner_unlock_of_notMem ho hnt
    refine ⟨ho', hs, ?_⟩
    rintro _ ⟨⟩
    exact hands _ ht' (by rintro key a ⟨⟩)
  | unlocked hp =>
    rw [taken, hp] at hnt
    obtain ⟨ho', ht'⟩ := LockTable.owner_unlock_of_notMem ho hnt
    refine ⟨ho', hs, ?_⟩
    rintro _ ⟨⟩
    exact hands _ ht' (by rintro key a ⟨⟩)
  | finished | asked =>
    refine ⟨ho, hs, ?_⟩
    rintro _ ⟨⟩
    exact hands _ List.not_mem_nil (by rintro key a ⟨⟩)
  | registered =>
    refine ⟨ho, hs, ?_⟩
    rintro _ ⟨⟩
    rintro (h | ⟨key, a, ⟨⟩, h | ⟨pass, ⟨⟩, -⟩⟩)
    · cases h
    · cases h
  | @admission key a p w' hp hm =>
    have hk := hc.session_admission hp
    have hna : ¬a.Handles u := fun h => hn (.inr ⟨key, a, hp, h⟩)
    rw [← hk] at ho ⊢
    obtain ⟨ho', hkeep, hn'⟩ := hm.aside ho hna
    refine ⟨ho', hs, ?_⟩
    have goes (a' : Admission) (ha : p.call? = some a') :
        ¬(c.inPhase (.admitting key a')).Handles u := by
      rintro (h | ⟨key', b, hb, h⟩)
      · exact hn' a' ha (.inl h)
      · cases hb
        exact hn' a' ha h
    rcases p with a' | a' | (r | locked)
    · rintro _ ⟨⟩
      exact goes a' rfl
    · rintro _ ⟨⟩
      exact goes a' rfl
    · rintro _ ⟨⟩
    · rintro _ ⟨⟩
      exact hands _ hkeep (by rintro key a ⟨⟩)
  | approved hp =>
    rw [taken, hp] at hnt
    refine ⟨ho, hs, ?_⟩
    rintro _ ⟨⟩
    exact hands _ hnt (by rintro key a ⟨⟩)
  | denied hp =>
    rw [taken, hp] at hnt
    refine ⟨ho, hs, ?_⟩
    rintro _ ⟨⟩
    exact hands _ (by simpa [taken, inPhase] using hnt) (by rintro key a ⟨⟩)
  | installed hp =>
    rw [taken, hp] at hnt
    exact ⟨ho, hnt, by rintro _ ⟨⟩⟩

lemma Finish.Move.aside {c : Finish} {p : Progress Finish Unit} (h : c.Move w s w' s' p)
    (ho : w.host.locks.owner u = some c.session) (hs : u ∉ s.lockedTables) (hn : u ∉ c.taken) :
    w'.host.locks.owner u = some c.session ∧ u ∉ s'.lockedTables ∧
      ∀ c', p.call? = some c' → u ∉ c'.taken := by
  cases h with
  | barred =>
    refine ⟨ho, hs, ?_⟩
    rintro _ ⟨⟩
    exact hn
  | idle | completed => exact ⟨ho, hs, by rintro _ ⟨⟩⟩
  | took hp _ ha =>
    refine ⟨ho, List.not_mem_nil, ?_⟩
    rintro _ ⟨⟩
    simpa [taken, Session.lockedTables, ha] using hs
  | returned hp =>
    rw [taken, hp] at hn
    obtain ⟨ho', hn'⟩ := LockTable.owner_unlock_of_notMem ho hn
    refine ⟨ho', hs, ?_⟩
    rintro _ ⟨⟩
    exact hn'

lemma Abort.Move.aside {c : Abort} {p : Progress Abort Unit} (h : c.Move w s w' s' p)
    (ho : w.host.locks.owner u = some c.session) (hs : u ∉ s.lockedTables) (hn : u ∉ c.taken) :
    w'.host.locks.owner u = some c.session ∧ u ∉ s'.lockedTables ∧
      ∀ c', p.call? = some c' → u ∉ c'.taken := by
  cases h with
  | barred =>
    refine ⟨ho, hs, ?_⟩
    rintro _ ⟨⟩
    exact hn
  | took =>
    refine ⟨ho, List.not_mem_nil, ?_⟩
    rintro _ ⟨⟩
    simpa [taken] using hs
  | returned hp =>
    rw [taken, hp] at hn
    obtain ⟨ho', hn'⟩ := LockTable.owner_unlock_of_notMem ho hn
    refine ⟨ho', hs, ?_⟩
    rintro _ ⟨⟩
    exact hn'
  | swept => exact ⟨ho, hs, by rintro _ ⟨⟩⟩

namespace Activity

variable {a b : Activity} {a' : Option Activity}

lemma handles_iff (ha : a.isStart = false) : a.Handles u ↔ u ∈ a.taken := by
  cases a with
  | start => cases ha
  | entering | inside | finish | abort | utility => exact Iff.rfl

lemma Light.not_handles (ha : a.Light) : ¬a.Handles u := by
  rw [handles_iff ha.isStart, ha.taken]
  exact List.not_mem_nil

lemma not_handles_of_isFresh (ha : a.isFresh) : ¬a.Handles u := by
  obtain ⟨ht, -, -, -⟩ := a.account_of_isFresh ha
  have hnt : u ∉ a.taken := by simp [ht]
  cases a with
  | entering | inside | finish | abort | utility => exact hnt
  | start c executes =>
    rintro (h | ⟨key, b, hb, -⟩)
    · exact hnt h
    · rw [isFresh_start.1 ha] at hb
      cases hb

/-- A table that the session owns and that neither its active query nor the activity is in charge of
stays so. -/
lemma Move.aside (h : Move w s a w' s' a') (ha : a.FitsRoster w)
    (ho : w.host.locks.owner u = some a.session) (hs : u ∉ s.lockedTables) (hn : ¬a.Handles u) :
    w'.host.locks.owner u = some a.session ∧ u ∉ s'.lockedTables ∧ ∀ b ∈ a', ¬b.Handles u := by
  cases h with
  | start h =>
    obtain ⟨ho', hs', hn'⟩ := h.aside ha.coherent.native ho hs hn
    refine ⟨ho', hs', fun b hb => ?_⟩
    obtain ⟨c', hc, rfl⟩ | ⟨key, rfl⟩ := mem_ofStart hb
    · exact hn' c' hc
    · exact List.not_mem_nil
  | finish h =>
    obtain ⟨ho', hs', hn'⟩ := h.aside ho hs hn
    refine ⟨ho', hs', fun b hb => ?_⟩
    obtain ⟨c', hc, rfl⟩ := mem_ofCall hb
    exact hn' c' hc
  | abort h =>
    obtain ⟨ho', hs', hn'⟩ := h.aside ho hs hn
    refine ⟨ho', hs', fun b hb => ?_⟩
    obtain ⟨c', hc, rfl⟩ := mem_ofCall hb
    exact hn' c' hc
  | @bracket a a' f hl hl' hf =>
    obtain ⟨n, v, h⟩ := hf s
    rw [h]
    exact ⟨ho, hs, fun b hb => (hl' b hb).1.not_handles⟩

end Activity

end Sections

/-! ### Traffic that leaves a table alone -/

namespace Traffic

variable {t t' : Traffic} {e : Event} {id : SessionId} {a : Activity} {rest : Multiset Activity}

/-- The session owns the table, and nobody in the session is in charge of it. -/
structure Aside (t : Traffic) (id : SessionId) (u : TableId) : Prop where
  owned : t.world.host.locks.owner u = some id
  unlocked : ∀ s, t.world.session? id = some s → u ∉ s.lockedTables
  unhandled : ∀ a ∈ t.within id, ¬a.Handles u

/-- What changes neither the session nor who owns the table leaves it set aside. -/
lemma Aside.congr (h : t.Aside id u)
    (ho : t'.world.host.locks.owner u = some id)
    (hs : ∀ s, t'.world.session? id = some s → t.world.session? id = some s)
    (ha : t'.within id = t.within id) : t'.Aside id u where
  owned := ho
  unlocked s hs' := h.unlocked s (hs s hs')
  unhandled := by
    rw [ha]
    exact h.unhandled

lemma Aside.advance (h : t.Aside id u) (hp : t.Proper) (ha : t.underway = a ::ₘ rest) :
    (t.advance a rest).Aside id u := by
  have hmem : a ∈ t.underway := by
    rw [ha]
    exact Multiset.mem_cons_self a rest
  obtain ⟨s, hs⟩ := hp.session?_of_mem hmem
  obtain ⟨s', hm⟩ := Activity.move_advance hs
  have hmove : Aside
      ⟨(a.advance t.world).1, Activity.after (a.advance t.world).2.call? rest⟩ id u := by
    by_cases hne : id = a.session
    · subst hne
      have hfits := (hp.regular_cons ha hs).fitsRoster a (Multiset.mem_cons_self _ _)
      have hna := h.unhandled a (Activity.mem_ofSession.2 ⟨hmem, rfl⟩)
      obtain ⟨ho, hl, hn⟩ := hm.aside hfits h.owned (h.unlocked s hs) hna
      refine ⟨ho, fun s₁ hs₁ => ?_, fun b hb => ?_⟩
      · rw [show World.session? _ _ = _ from hm.session?_eq hs] at hs₁
        cases hs₁
        exact hl
      · obtain ⟨hb, hbs⟩ := Activity.mem_ofSession.1 hb
        rcases Activity.mem_after.1 hb with hb | hb
        · exact hn b hb
        · refine h.unhandled b (Activity.mem_ofSession.2 ⟨?_, hbs⟩)
          rw [ha]
          exact Multiset.mem_cons_of_mem hb
    · obtain ⟨hu, hown, -⟩ := hp.others ha hs hm hne
      refine h.congr ((hown u).2 h.owned) (fun s₁ hs₁ => ?_) hu
      rwa [show World.session? _ _ = _ from hm.session?_ne hne] at hs₁
  rcases t.advance_eq a rest with he | ⟨hn, -, he⟩
  · rw [he]
    exact hmove
  · rw [hn] at hmove
    rw [he]
    refine hmove.congr hmove.owned (fun s₁ hs₁ => ?_) rfl
    have hs₁ : ((a.advance t.world).1.forget a.session).session? id = some s₁ := hs₁
    rw [World.session?_forget] at hs₁
    split_ifs at hs₁
    exact hs₁

/-- Whatever happens in traffic leaves the table set aside. -/
lemma Aside.step (h : t.Aside id u) (hp : t.Proper) (hs : Step t e t') : t'.Aside id u := by
  cases hs with
  | opened kind =>
    refine ⟨h.owned, fun s hs => ?_, h.unhandled⟩
    have hs : (t.world.openSession kind).2.session? id = some s := hs
    rw [hp.session?_openSession] at hs
    split_ifs at hs with hid
    · cases hs
      exact List.not_mem_nil
    · exact h.unlocked s hs
  | @begun a ha =>
    refine ⟨h.owned, h.unlocked, fun b hb => ?_⟩
    obtain ⟨hb, hbs⟩ := Activity.mem_ofSession.1 hb
    rcases Multiset.mem_cons.1 hb with rfl | hb
    · exact Activity.not_handles_of_isFresh ha
    · exact h.unhandled b (Activity.mem_ofSession.2 ⟨hb, hbs⟩)
  | advanced ha => exact h.advance hp ha
  | raised signal => cases signal <;> exact h.congr h.owned (fun _ hs => hs) rfl
  | shutDown | indexed => exact h.congr h.owned (fun _ hs => hs) rfl

/-- So does whatever other sessions do with tables by themselves. -/
lemma Aside.direct {other : SessionId} (h : t.Aside id u) (hd : Direct other t t')
    (hne : other ≠ id) : t'.Aside id u := by
  obtain ⟨locks, rfl, hl⟩ := hd.eq_setLocks
  exact h.congr ((hl u id hne.symm).2 h.owned) (fun _ hs => hs) rfl

end Traffic

end QueryAdmission
