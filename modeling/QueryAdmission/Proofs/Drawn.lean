import QueryAdmission.Proofs.AllOrNothing
import QueryAdmission.Proofs.Activity

/-!
# Keys in hand

A start draws a key when it enters its session, and uses the key when it registers its query, if it
comes to that. No other section has to do with keys: no query comes to have a record by it, and no
key is drawn (`World.KeyStep`). This is so on a host of any kind.
-/

namespace QueryAdmission

variable {σ : Type}

/-! ### Keys in hand -/

/-- The key that a start has drawn and not used so far. -/
def Start.drawn (c : Start) : Multiset QueryKey :=
  match c.phase with
  | .finishing key _ _ | .surveying key _ => {key}
  | .entering | .admitting _ _ | .checking _ _ | .installing _ _ | .undoing _ _ => 0

/-- The key that a start is about to register. -/
def Start.registers? (c : Start) : Option QueryKey :=
  match c.phase with
  | .surveying key ⟨[], _⟩ => some key
  | _ => none

namespace Activity

/-- The key that was drawn for it and is not used so far. -/
def drawn : Activity → Multiset QueryKey
  | start c _ => c.drawn
  | entering _ _ | inside _ _ | finish _ | abort _ _ | utility _ _ => 0

/-- The key that it is about to register. -/
def registers? : Activity → Option QueryKey
  | start c _ => c.registers?
  | entering _ _ | inside _ _ | finish _ | abort _ _ | utility _ _ => none

lemma Light.drawn_eq {a : Activity} (h : a.Light) : a.drawn = 0 := by
  cases a with
  | start => cases h.isStart
  | entering | inside | finish | abort | utility => rfl

lemma elim_drawn {γ : Type} (around : γ → Activity) (h : ∀ c, (around c).drawn = 0)
    (c? : Option γ) : c?.elim 0 (fun c => (around c).drawn) = 0 := by
  cases c? with
  | none => rfl
  | some c => exact h c

lemma registers?_of_closes {a : Activity} (hc : a.closes) : a.registers? = none := by
  cases a with
  | abort => rfl
  | start | entering | inside | finish | utility => cases hc

lemma drawn_of_isFresh {a : Activity} (ha : a.isFresh) : a.drawn = 0 := by
  cases a with
  | start c executes => simp [drawn, Start.drawn, isFresh_start.1 ha]
  | entering | inside | finish | abort | utility => rfl

end Activity

/-! ### What one section does with keys -/

namespace World

/-- How many keys were drawn in a session, if it is open. -/
def counter? (w : World σ) (id : SessionId) : Option Nat := (w.session? id).map (·.sequence)

/-- No query comes to have a record, and no key is drawn. -/
structure NoneJoins (w w' : World σ) : Prop where
  opened_eq : w'.service.opened = w.service.opened
  absent : ∀ k, w.service.status? k = none → w'.service.status? k = none
  counter?_eq : ∀ id, w'.counter? id = w.counter? id

/-- What becomes of the keys that one activity has in its hands: from these, and the key that it
registers, to those. -/
inductive KeyStep (w : World σ) (id : SessionId) :
    Multiset QueryKey → Option QueryKey → World σ → Multiset QueryKey → Prop
  /-- The session's next key is drawn. -/
  | drawn {s : Session} {w' : World σ} (hs : w.session? id = some s) (hw : w'.service = w.service)
      (hc : ∀ other, w'.counter? other
        = if other = id then some (s.sequence + 1) else w.counter? other) :
      KeyStep w id 0 none w' {s.nextKey}
  /-- The key is used. -/
  | used (key : QueryKey) (affected : List ViewId) (transaction : TransactionId) :
      KeyStep w id {key} (some key)
        { w with service := (w.service.register key affected transaction).2 } 0
  | kept {w' : World σ} (keys : Multiset QueryKey) (h : w.NoneJoins w') :
      KeyStep w id keys none w' keys

variable {w w' : World σ} {id : SessionId} {keys : Multiset QueryKey}

@[refl] lemma NoneJoins.refl (w : World σ) : w.NoneJoins w := ⟨rfl, fun _ h => h, fun _ => rfl⟩

lemma NoneJoins.trans {w'' : World σ} (h : w.NoneJoins w') (h' : w'.NoneJoins w'') :
    w.NoneJoins w'' where
  opened_eq := h'.opened_eq.trans h.opened_eq
  absent k hk := h'.absent k (h.absent k hk)
  counter?_eq id := (h'.counter?_eq id).trans (h.counter?_eq id)

lemma noneJoins_host (w : World σ) (host : σ) : w.NoneJoins { w with host } :=
  ⟨rfl, fun _ h => h, fun _ => rfl⟩

lemma noneJoins_service {service : Service} (ha : w.service.Alike service)
    (hk : ∀ k, w.service.status? k = none → service.status? k = none) :
    w.NoneJoins { w with service } := ⟨ha.2, hk, fun _ => rfl⟩

lemma noneJoins_update (w : World σ) (id : SessionId) {f : Session → Session}
    (hf : ∀ s, (f s).id = s.id ∧ (f s).sequence = s.sequence) : w.NoneJoins (w.update id f) := by
  refine ⟨rfl, fun _ h => h, fun other => ?_⟩
  rw [counter?, session?_update w id other f fun s => (hf s).1, Option.map_map]
  refine congrArg (Option.map · _) (funext fun s => ?_)
  rw [Function.comp_apply]
  split_ifs
  · exact (hf s).2
  · rfl

lemma noneJoins_apply {op : Service.Op} (w : World σ)
    (ho : ∀ key affected transaction, op ≠ .register key affected transaction) :
    w.NoneJoins { w with service := w.service.apply op } := by
  refine noneJoins_service (w.service.alike_apply op) fun k hn => ?_
  cases op with
  | register key affected transaction => exact absurd rfl (ho key affected transaction)
  | giveUp key => exact Service.status?_giveUp_eq_none key hn
  | markRunning key => exact Service.status?_markRunning_eq_none key hn
  | complete | pass | poll | sweep | shutDown => exact Service.status?_apply_eq_none trivial hn

end World

/-! ### What all sections have in common -/

namespace World.KeyStep

variable {w w' : World σ} {id : SessionId} {keys keys' : Multiset QueryKey}
  {key? : Option QueryKey} {k : QueryKey}

lemma opened_eq (h : w.KeyStep id keys key? w' keys') : w'.service.opened = w.service.opened := by
  cases h with
  | drawn _ hw => exact congrArg Service.opened hw
  | used => exact (w.service.alike_register _ _ _).2
  | kept _ h => exact h.opened_eq

/-- The same sessions are open, and none counts back. -/
lemma rel_counter? (h : w.KeyStep id keys key? w' keys') (other : SessionId) :
    Option.Rel (· ≤ ·) (w.counter? other) (w'.counter? other) := by
  have hrefl (o : Option Nat) : Option.Rel (· ≤ ·) o o := by
    cases o with
    | none => exact .none
    | some n => exact .some (Nat.le_refl n)
  cases h with
  | @drawn s _ hs _ hc =>
    rw [hc]
    split_ifs with ho
    · rw [ho, counter?, hs]
      exact .some (Nat.le_succ _)
    · exact hrefl _
  | used => exact hrefl _
  | kept _ h =>
    rw [h.counter?_eq]
    exact hrefl _

lemma counter?_eq_none (h : w.KeyStep id keys key? w' keys') (other : SessionId) :
    w'.counter? other = none ↔ w.counter? other = none := by
  have hrel := h.rel_counter? other
  generalize w.counter? other = o at hrel ⊢
  generalize w'.counter? other = o' at hrel ⊢
  cases hrel <;> simp

/-- What a session has counted past stays behind. -/
lemma le_counter? (h : w.KeyStep id keys key? w' keys') {other : SessionId} {m : Nat}
    (hm : ∀ n ∈ w.counter? other, m ≤ n) : ∀ n ∈ w'.counter? other, m ≤ n := by
  intro n' hn'
  have hrel := h.rel_counter? other
  rw [Option.mem_def.1 hn'] at hrel
  generalize hn : w.counter? other = o at hrel
  cases hrel with
  | some hle => exact Nat.le_trans (hm _ hn) hle

/-- The keys stay the same, unless the session's next one is drawn. -/
lemma total_or (h : w.KeyStep id keys key? w' keys') :
    keys' + key?.toList = keys ∨ ∃ s, w.session? id = some s ∧
      keys' + key?.toList = s.nextKey ::ₘ keys ∧ w'.counter? id = some (s.sequence + 1) := by
  cases h with
  | @drawn s _ hs _ hc =>
    refine .inr ⟨s, hs, rfl, ?_⟩
    rw [hc, if_pos rfl]
  | used key => exact .inl rfl
  | kept => exact .inl (add_zero _)

/-- A key in hand was in hand before, or it is one of the session's own. -/
lemma mem_or (h : w.KeyStep id keys key? w' keys') (hk : k ∈ keys') :
    k ∈ keys ∨ k.session = id := by
  cases h with
  | drawn hs =>
    rw [Multiset.mem_singleton.1 hk]
    exact .inr (id_of_session? hs)
  | used => exact absurd hk (Multiset.notMem_zero k)
  | kept => exact .inl hk

lemma mem_of_some (h : w.KeyStep id keys (some k) w' keys') : k ∈ keys := by
  cases h with
  | used key => exact Multiset.mem_singleton_self k

/-- A key comes to have a record only when it is registered. -/
lemma registered (h : w.KeyStep id keys key? w' keys') (hk : w'.service.status? k ≠ none) :
    w.service.status? k ≠ none ∨ key? = some k := by
  rw [or_iff_not_imp_right]
  intro hne hn
  apply hk
  cases h with
  | drawn _ hw => rwa [hw]
  | used key affected transaction =>
    exact Service.status?_register_eq_none affected transaction
      (fun heq => hne (congrArg some heq.symm)) hn
  | kept _ h => exact h.absent k hn

end World.KeyStep

/-! ### The sections of calls -/

lemma Wait.noneJoins (w : World σ) (c : Wait) : w.NoneJoins (c.advance w).1 := by
  rcases hp : c.phase with _ | _ | why
  · have ha := w.service.alike_look c.key
    have hk (k : QueryKey) (h : w.service.status? k = none) :=
      Service.status?_look_eq_none c.key h
    rcases hl : w.service.look c.key with ⟨_ | _ | _, service⟩ <;> rw [hl] at ha hk <;>
      simp only [advance, hp, hl] <;> exact World.noneJoins_service ha hk
  · rcases hd : c.departure? w with _ | why <;> simp only [advance, hp, hd] <;> rfl
  · simp only [advance, hp]
    exact World.noneJoins_service (w.service.alike_depart c.key why)
      fun k h => Service.status?_depart_eq_none c.key why h

variable [Locking σ]

lemma Admission.noneJoins (w : World σ) (a : Admission) : w.NoneJoins (a.advance w).1 := by
  rcases hp : a.phase with wait | pass | (_ | ⟨t, left⟩)
  · have h := wait.noneJoins w
    rcases hw : wait.advance w with ⟨w', _ | _ | (_ | _)⟩ <;> rw [hw] at h <;>
      simp only [advance, hp, hw] <;> exact h
  · cases pass with
    | took tables =>
      have ha := w.service.alike_markRunning a.key
      have hk (k : QueryKey) (h : w.service.status? k = none) :=
        Service.status?_markRunning_eq_none a.key h
      rcases hm : w.service.markRunning a.key with ⟨_ | _, service⟩ <;> rw [hm] at ha hk <;>
        simp only [advance, hp, hm] <;> exact World.noneJoins_service ha hk
    | refusedAt t =>
      simp only [advance, hp]
      exact World.noneJoins_service (w.service.alike_giveUp a.key)
        fun k h => Service.status?_giveUp_eq_none a.key h
    | asking | attempting | undoing =>
      simp only [advance, hp]
      exact w.noneJoins_host _
  · simp only [advance, hp]
    rfl
  · simp only [advance, hp]
    exact w.noneJoins_host _

variable [Catalogue σ]

lemma Start.drawn_afterEntry (c : Start) (key : QueryKey) (views : List ViewId)
    (active : Option ActiveQuery) : (c.inPhase (.afterEntry key views active)).drawn = {key} := by
  cases active <;> rfl

/-- A start draws a key when it enters its session, and uses it when it registers its query. -/
lemma Start.keyStep {w : World σ} {c : Start} {s : Session} (hs : w.session? c.session = some s) :
    w.KeyStep c.session c.drawn c.registers? (c.advance w).1
      ((c.advance w).2.call?.elim 0 drawn) := by
  obtain ⟨id, query, phase⟩ := c
  cases phase with
  | entering =>
    by_cases hg : s.guarded = true
    · simp only [advance, hs, hg, if_true]
      exact .kept _ (.refl w)
    · by_cases he : s.enforces query = true
      · simp only [advance, hs, hg, he, if_true]
        show w.KeyStep id 0 none _ (drawn _)
        rw [drawn_afterEntry]
        refine .drawn hs rfl fun other => ?_
        show ((w.update id Session.advance).session? other).map _ = _
        rw [World.session?_update w id other Session.advance fun _ => rfl]
        split_ifs with ho
        · rw [ho, show w.session? id = some s from hs]
          rfl
        · rw [Option.map_id']
          rfl
      · simp only [advance, hs, hg, he]
        exact .kept _ (.refl w)
  | finishing key stale left =>
    cases left with
    | nil =>
      exact .kept {key} (World.noneJoins_service (w.service.alike_complete stale)
        fun k h => Service.status?_complete_eq_none stale h)
    | cons t left => exact .kept {key} (w.noneJoins_host _)
  | surveying key survey =>
    obtain ⟨left, tables⟩ := survey
    cases left with
    | cons v left => exact .kept {key} (w.noneJoins_host _)
    | nil =>
      have h : w.KeyStep id {key} (some key) _ 0 := .used key query.affected query.transaction
      rcases hr : w.service.register key query.affected query.transaction with ⟨_ | _, service⟩ <;>
        rw [hr] at h <;> simp only [advance, hr] <;> exact h
  | admitting key a =>
    have h := a.noneJoins w
    rcases ha : a.advance w with ⟨w', _ | _ | (_ | _)⟩ <;> rw [ha] at h <;>
      simp only [advance, ha] <;> exact .kept 0 h
  | checking key locked =>
    simp only [advance]
    split_ifs
    · exact .kept 0 (.refl w)
    · exact .kept 0 (w.noneJoins_update id fun _ => ⟨rfl, rfl⟩)
    · exact .kept 0 (w.noneJoins_update id fun _ => ⟨rfl, rfl⟩)
  | installing key locked => exact .kept 0 (w.noneJoins_update id fun _ => ⟨rfl, rfl⟩)
  | undoing key left =>
    cases left with
    | nil => exact .kept 0 (w.noneJoins_update id fun _ => ⟨rfl, rfl⟩)
    | cons t left => exact .kept 0 (w.noneJoins_host _)

/-- What is about to be registered is in hand, and the section is the registration. -/
lemma Start.advance_of_registers {w : World σ} {c : Start} {key : QueryKey}
    (h : c.registers? = some key) :
    let x := w.service.register key c.query.affected c.query.transaction
    key ∈ c.drawn ∧ (c.advance w).1 = { w with service := x.2 } ∧
      ∀ refusal, x.1 = .error refusal → (c.advance w).2 = .done (.error refusal) := by
  obtain ⟨id, query, phase⟩ := c
  cases phase with
  | entering | finishing | admitting | checking | installing | undoing => cases h
  | surveying k survey =>
    rcases survey with ⟨_ | ⟨v, left⟩, tables⟩ <;> cases h
    refine ⟨Multiset.mem_singleton_self key, ?_⟩
    rcases hr : w.service.register key query.affected query.transaction with
      ⟨r | record, service⟩ <;> simp only [advance, hr]
    · refine ⟨trivial, fun refusal he => ?_⟩
      cases he
      rfl
    · refine ⟨trivial, fun refusal he => ?_⟩
      cases he

lemma Start.session_eq {w : World σ} {c c' : Start} (h : (c.advance w).2.call? = some c') :
    c'.session = c.session := by
  revert h
  fun_cases advance w c <;> rintro ⟨⟩ <;> rfl

omit [Catalogue σ] in
lemma Finish.session_eq {w : World σ} {c c' : Finish} (h : (c.advance w).2.call? = some c') :
    c'.session = c.session := by
  revert h
  fun_cases advance w c <;> rintro ⟨⟩ <;> rfl

omit [Catalogue σ] in
lemma Abort.session_eq {w : World σ} {c c' : Abort} (h : (c.advance w).2.call? = some c') :
    c'.session = c.session := by
  revert h
  fun_cases advance w c <;> rintro ⟨⟩ <;> rfl

omit [Catalogue σ] in
lemma Finish.noneJoins (w : World σ) (c : Finish) : w.NoneJoins (c.advance w).1 := by
  fun_cases advance w c
  · rfl
  · rfl
  · rfl
  · exact w.noneJoins_update _ fun _ => ⟨rfl, rfl⟩
  · rfl
  · exact w.noneJoins_host _
  · exact World.noneJoins_service (w.service.alike_complete c.key)
      fun k h => Service.status?_complete_eq_none c.key h

omit [Catalogue σ] in
lemma Abort.noneJoins (w : World σ) (c : Abort) : w.NoneJoins (c.advance w).1 := by
  fun_cases advance w c
  · rfl
  · rfl
  · exact w.noneJoins_update _ fun _ => ⟨rfl, rfl⟩
  · exact w.noneJoins_host _
  · have hs := World.noneJoins_service (w.service.alike_sweep c.session)
      fun k h => Service.status?_sweep_eq_none c.session h
    exact hs.trans (World.noneJoins_update _ c.session fun _ => ⟨rfl, rfl⟩)

namespace Activity

variable {w : World σ} {s : Session} {a b : Activity}

lemma keyStep (hs : w.session? a.session = some s) :
    w.KeyStep a.session a.drawn a.registers? (a.advance w).1
      ((a.advance w).2.call?.elim 0 drawn) := by
  cases a with
  | start c executes =>
    have h := Start.keyStep hs
    rw [advance, elim_ofStart drawn 0 (fun _ hl => hl.drawn_eq)]
    exact h
  | finish c =>
    rw [advance, elim_ofCall drawn 0 finish, elim_drawn finish fun _ => rfl]
    exact .kept 0 (c.noneJoins w)
  | abort c closes =>
    rw [advance, elim_ofCall drawn 0 (abort · closes), elim_drawn (abort · closes) fun _ => rfl]
    exact .kept 0 (c.noneJoins w)
  | entering id key =>
    simp only [advance]
    split_ifs
    · exact .kept 0 (.refl w)
    · exact .kept 0 (w.noneJoins_update id fun _ => ⟨rfl, rfl⟩)
  | inside id key =>
    simp only [advance]
    split_ifs
    · exact .kept 0 (.refl w)
    · cases key <;> exact .kept 0 (w.noneJoins_update id fun _ => ⟨rfl, rfl⟩)
  | utility id before =>
    cases before <;> simp only [advance] <;> split_ifs
    · exact .kept 0 (.refl w)
    · exact .kept 0 (w.noneJoins_update id fun _ => ⟨rfl, rfl⟩)
    · exact .kept 0 (.refl w)
    · exact .kept 0 (w.noneJoins_update id fun _ => ⟨rfl, rfl⟩)

/-- It goes on in the same session, which is closed by it or not as before. -/
lemma same_advance (h : (a.advance w).2.call? = some b) :
    b.session = a.session ∧ b.closes = a.closes := by
  cases a with
  | start c executes =>
    obtain ⟨c', hc, rfl⟩ | ⟨key, rfl⟩ := mem_ofStart h
    · exact ⟨Start.session_eq hc, rfl⟩
    · exact ⟨rfl, rfl⟩
  | finish c =>
    obtain ⟨c', hc, rfl⟩ := mem_ofCall h
    exact ⟨Finish.session_eq hc, rfl⟩
  | abort c closes =>
    obtain ⟨c', hc, rfl⟩ := mem_ofCall h
    exact ⟨Abort.session_eq hc, rfl⟩
  | entering id key =>
    simp only [advance] at h
    split_ifs at h <;> cases h <;> exact ⟨rfl, rfl⟩
  | inside id key =>
    simp only [advance] at h
    split_ifs at h
    · cases h
      exact ⟨rfl, rfl⟩
    · cases key <;> cases h
      exact ⟨rfl, rfl⟩
  | utility id before =>
    cases before <;> simp only [advance] at h <;> split_ifs at h <;> cases h <;> exact ⟨rfl, rfl⟩

/-- When a session is closed by it, all its records are swept at the end. -/
lemma swept_advance (hs : w.session? a.session = some s) (hc : a.closes)
    (h : (a.advance w).2.call? = none) {k : QueryKey} (hk : k.session = a.session) :
    (a.advance w).1.service.status? k = none := by
  cases a with
  | start | finish | entering | inside | utility => cases hc
  | abort c closes =>
    obtain ⟨id, phase⟩ := c
    have hopen : w.session? id = some s := hs
    rcases phase with _ | (_ | ⟨t, left⟩)
    · simp only [advance, Abort.advance, hopen] at h
      split_ifs at h <;> cases h
    · exact w.service.status?_sweep_self hk
    · cases h

end Activity

end QueryAdmission
