import QueryAdmission.Proofs.Aside
import QueryAdmission.Proofs.Nested

/-!
# Sessions that are left tidy

A session stays tidy if it begins no query and takes no table, and if its active query goes only
together with its record and its tables (`World.Tidy`). The sections of calls that do not concern
the session do not touch it at all (`Call.untouched`). An end or an abort of the session itself
gives back what was locked for its query, one table after the other, and only then is over
(`World.GivesBack.tidy`). Within an execution a start of the session does nothing. So whatever goes
on in a body, the session is left tidy (`Regime.ofTidy_bears`).
-/

namespace QueryAdmission

/-! ### What a session still has -/

namespace World

variable {w w' w₁ w₂ w₃ : World MemoryHost} {id : SessionId}

/-- Since the first world, the session has begun no query and taken no table. It has what it had,
except for its active query maybe, and then the record and the tables of that query are gone too. -/
structure Tidy (id : SessionId) (w w' : World MemoryHost) : Prop
    extends w.Steady id (fun _ => True) w' where
  kept : ∀ u, w.host.locks.owner u = some id → (∀ q ∈ w.active? id, u ∉ q.locked) →
    w'.host.locks.owner u = some id
  lacked : ∀ u, w.host.locks.owner u ≠ some id → w'.host.locks.owner u ≠ some id
  ended : w'.active? id = none → ∀ q ∈ w.active? id,
    (q.key.session = id → w'.service.status? q.key = none) ∧
      ∀ u ∈ q.locked, w'.host.locks.owner u ≠ some id

namespace Tidy

@[refl]
lemma refl (id : SessionId) (w : World MemoryHost) : w.Tidy id w where
  toSteady := .refl id _ w
  kept _ ho _ := ho
  lacked _ ho := ho
  ended ha q hq := by
    rw [ha] at hq
    cases hq

lemma trans (h : w₁.Tidy id w₂) (h' : w₂.Tidy id w₃) : w₁.Tidy id w₃ where
  toSteady := h.toSteady.trans h'.toSteady
  kept u ho hu := by
    refine h'.kept u (h.kept u ho hu) fun q hq => ?_
    rcases h.active with ha | ⟨ha, -⟩ <;> rw [ha] at hq
    · exact hu q hq
    · cases hq
  lacked u ho := h'.lacked u (h.lacked u ho)
  ended ha q hq := by
    rcases h.active with ha' | ⟨ha', -⟩
    · exact h'.ended ha q (ha' ▸ hq)
    · obtain ⟨hst, ho⟩ := h.ended ha' q hq
      exact ⟨fun hid => h'.unregistered _ hid (hst hid), fun u hu => h'.lacked u (ho u hu)⟩

lemma of_session?_eq (hs : w'.session? id = w.session? id)
    (hn : ∀ k, k.session = id → w.service.status? k = none → w'.service.status? k = none)
    (ho : ∀ u, w'.host.locks.owner u = some id ↔ w.host.locks.owner u = some id) :
    w.Tidy id w' where
  toSteady := .of_session?_eq hs hn
  kept u hu _ := (ho u).2 hu
  lacked u hu := fun h => hu ((ho u).1 h)
  ended ha q hq := by
    rw [active?, hs] at ha
    rw [active?, ha] at hq
    cases hq

/-- A change of the brackets that are open. -/
lemma update (w : World MemoryHost) (id other : SessionId) {f : Session → Session}
    (hf : ∀ s, (f s).id = s.id ∧ (f s).sequence = s.sequence ∧ (f s).active = s.active) :
    w.Tidy id (w.update other f) := by
  refine ⟨.update w id other _ hf, fun _ ho _ => ho, fun _ ho => ho, fun ha q hq => ?_⟩
  rw [w.active?_update_of id other fun s => ⟨(hf s).1, (hf s).2.2⟩] at ha
  rw [ha] at hq
  cases hq

lemma enter (w : World MemoryHost) (id other : SessionId) :
    w.Tidy id (w.update other Session.enter) :=
  update w id other fun _ => ⟨rfl, rfl, rfl⟩

lemma leave (w : World MemoryHost) (id other : SessionId) :
    w.Tidy id (w.update other Session.leave) :=
  update w id other fun _ => ⟨rfl, rfl, rfl⟩

lemma setUtility (w : World MemoryHost) (id other : SessionId) (b : Bool) :
    w.Tidy id (w.update other (·.setUtility b)) :=
  update w id other fun _ => ⟨rfl, rfl, rfl⟩

end Tidy

/-- The session has given back the tables of a list, except for those that are left. -/
structure GivesBack (id : SessionId) (tables left : List TableId) (w w' : World MemoryHost) :
    Prop where
  service : w'.service = w.service
  apart : LockTable.Apart id w.host.locks w'.host.locks
  kept : ∀ u, u ∉ tables → w.host.locks.owner u = some id → w'.host.locks.owner u = some id
  lacked : ∀ u, w.host.locks.owner u ≠ some id → w'.host.locks.owner u ≠ some id
  given : ∀ u ∈ tables, u ∈ left ∨ w'.host.locks.owner u ≠ some id
  subset : left ⊆ tables

namespace GivesBack

variable {tables left : List TableId} {t : TableId}

lemma start (hs : w'.service = w.service) (hh : w'.host = w.host) (tables : List TableId) :
    GivesBack id tables tables.reverse w w' where
  service := hs
  apart := by rw [hh]
  kept _ _ ho := by rwa [hh]
  lacked _ ho := by rwa [hh]
  given u hu := .inl (List.mem_reverse.2 hu)
  subset := by simp

lemma unlock (h : GivesBack id tables (t :: left) w w') :
    GivesBack id tables left w (w'.unlock id t) where
  service := h.service
  apart u o ho := (w'.host.locks.apart_unlock id t u o ho).trans (h.apart u o ho)
  kept u hu ho := by
    have hl : u ∉ t :: left := fun hl => hu (h.subset hl)
    exact (LockTable.owner_unlock_of_notMem (h.kept u hu ho) hl).1
  lacked u ho := fun h' => h.lacked u ho (LockTable.owner_of_unlock h')
  given u hu := by
    rcases h.given u hu with hl | ho
    · rcases List.mem_cons.1 hl with rfl | hl
      · right
        show (w'.host.locks.unlock id u).owner u ≠ some id
        rw [LockTable.owner_unlock]
        split_ifs with ho
        · exact (Option.some_ne_none id).symm
        · exact fun h => ho ⟨rfl, h⟩
      · exact .inl hl
    · exact .inr fun h' => ho (LockTable.owner_of_unlock h')
  subset := List.subset_of_cons_subset h.subset

/-- A session that has given back all tables of its active query, with no record left of it, is
tidy. -/
lemma tidy {s s' : Session} (h : GivesBack id s.lockedTables [] w w₁) (hs : w.session? id = some s)
    (hs' : w'.session? id = some s') (hq : s'.sequence = s.sequence) (ha : s'.active = none)
    (hh : w'.host = w₁.host)
    (hn : ∀ k, k.session = id → w.service.status? k = none ∨ k ∈ s.keys →
      w'.service.status? k = none) :
    w.Tidy id w' := by
  have hlocked {q : ActiveQuery} (hq : q ∈ w.active? id) : s.active = some q := by
    rwa [active?, hs] at hq
  refine ⟨.of_session? hs hs' hq (.inr ⟨ha, fun _ _ => trivial⟩) fun k hk h => hn k hk (.inl h),
    fun u ho hu => ?_, fun u ho => ?_, fun _ q hq => ⟨fun hid => hn _ hid (.inr ?_), fun u hu => ?_⟩⟩
  · rw [hh]
    refine h.kept u (fun hl => ?_) ho
    rw [Session.lockedTables] at hl
    cases hq : s.active with
    | none => simp [hq] at hl
    | some q =>
      refine hu q ?_ (by simpa [hq] using hl)
      rw [active?, hs]
      exact hq
  · rw [hh]
    exact h.lacked u ho
  · exact Session.mem_keys.2 ⟨q.locked, hlocked hq⟩
  · rw [hh]
    refine (h.given u ?_).resolve_left List.not_mem_nil
    rw [Session.lockedTables, hlocked hq]
    exact hu

end GivesBack

end World

/-! ### What other sessions do -/

/-- A call that does not concern the session, nor any of its tables. -/
def Call.Foreign (id : SessionId) : Call → Prop
  | .start c => c.session ≠ id ∧ c.Native
  | .finish c => c.session ≠ id
  | .abort c => c.session ≠ id
  | .wait _ => True
  | .admission a => a.key.session ≠ id

section Foreign

variable {w w' : World MemoryHost} {id : SessionId}

/-- What is done to the session by a section that does not concern it. -/
structure World.Untouched (id : SessionId) (w w' : World MemoryHost) : Prop where
  session? : w'.session? id = w.session? id
  unregistered : ∀ k, k.session = id → w.service.status? k = none → w'.service.status? k = none
  owner : ∀ u, w'.host.locks.owner u = some id ↔ w.host.locks.owner u = some id

lemma World.Untouched.refl (id : SessionId) (w : World MemoryHost) : w.Untouched id w :=
  ⟨rfl, fun _ _ h => h, fun _ => Iff.rfl⟩

lemma World.Untouched.tidy (h : w.Untouched id w') : w.Tidy id w' :=
  .of_session?_eq h.session? h.unregistered h.owner

lemma Start.untouched (c : Start) (hi : c.session ≠ id) (hc : c.Native) :
    w.Untouched id (c.advance w).1 ∧
      ∀ c' ∈ (c.advance w).2.call?, c'.session ≠ id ∧ c'.Native := by
  rcases c.exists_move w with h | ⟨s, s', hs, h⟩
  · rw [h]
    exact ⟨.refl id w, by rintro _ ⟨⟩⟩
  · refine ⟨⟨h.session?_ne hi.symm, fun k hk hn => h.status?_eq_none hn fun hq => ?_,
      fun u => h.apart hc u id hi.symm⟩, fun c' hc' => ⟨?_, h.native hs hc hc'⟩⟩
    · exact hi ((hc.queryKey k hq).symm.trans hk)
    · rwa [h.session_eq hc']

lemma Finish.untouched (c : Finish) (hi : c.session ≠ id) :
    w.Untouched id (c.advance w).1 ∧ ∀ c' ∈ (c.advance w).2.call?, c'.session ≠ id := by
  rcases c.exists_move w with h | ⟨s, s', -, h⟩
  · rw [h]
    exact ⟨.refl id w, by rintro _ ⟨⟩⟩
  · refine ⟨⟨h.session?_ne hi.symm, fun k _ => h.status?_eq_none, fun u => h.apart u id hi.symm⟩,
      fun c' hc' => ?_⟩
    rwa [h.session_eq hc']

lemma Abort.untouched (c : Abort) (hi : c.session ≠ id) :
    w.Untouched id (c.advance w).1 ∧ ∀ c' ∈ (c.advance w).2.call?, c'.session ≠ id := by
  rcases c.exists_move w with h | ⟨s, s', -, h⟩
  · rw [h]
    exact ⟨.refl id w, by rintro _ ⟨⟩⟩
  · refine ⟨⟨h.session?_ne hi.symm, fun k _ => h.status?_eq_none, fun u => h.apart u id hi.symm⟩,
      fun c' hc' => ?_⟩
    rwa [h.session_eq hc']

lemma Admission.untouched (a : Admission) (hi : a.key.session ≠ id) :
    w.Untouched id (a.advance w).1 ∧ ∀ a' ∈ (a.advance w).2.call?, a'.key.session ≠ id := by
  have h := a.move_advance w
  refine ⟨⟨?_, fun k _ hn => h.status?_eq_none hn, fun u => h.apart u id hi.symm⟩, fun a' ha => ?_⟩
  · rw [World.session?, a.sessions_advance w]
    rfl
  · rwa [(h.same ha).1]

/-- A section of a call that does not concern the session. -/
lemma Call.untouched (c : Call) (hc : c.Foreign id) :
    w.Untouched id (c.advance w).1 ∧ ∀ c' ∈ (c.advance w).2.call?, c'.Foreign id := by
  have around {γ : Type} {f : γ → Call} {o : Option γ} (h : ∀ c ∈ o, (f c).Foreign id) :
      ∀ c' ∈ o.map f, c'.Foreign id := by
    rintro c' hc'
    obtain ⟨c, hc, rfl⟩ := Option.map_eq_some_iff.1 hc'
    exact h c hc
  cases c with
  | start c =>
    rw [advance, fst_embed, call?_embed]
    obtain ⟨hw, hc'⟩ := c.untouched hc.1 hc.2
    exact ⟨hw, around hc'⟩
  | finish c =>
    rw [advance, fst_embed, call?_embed]
    obtain ⟨hw, hc'⟩ := c.untouched hc
    exact ⟨hw, around hc'⟩
  | abort c =>
    rw [advance, fst_embed, call?_embed]
    obtain ⟨hw, hc'⟩ := c.untouched hc
    exact ⟨hw, around hc'⟩
  | wait c =>
    rw [advance, fst_embed, call?_embed]
    refine ⟨⟨?_, fun k _ hn => (c.noneJoins w).absent k hn, fun u => ?_⟩, around fun _ _ => trivial⟩
    · rw [World.session?, c.sessions_advance w]
      rfl
    · rw [c.host_advance w]
  | admission a =>
    rw [advance, fst_embed, call?_embed]
    obtain ⟨hw, ha'⟩ := a.untouched hc
    exact ⟨hw, around ha'⟩

end Foreign

/-! ### A session that is looked after -/

namespace World

variable {w w' w₀ : World MemoryHost} {id : SessionId} {nested : Prop} {sections : Nat}

lemma isGuarded_update_of (w : World MemoryHost) (id other : SessionId) {f : Session → Session}
    (hf : ∀ s, (f s).id = s.id ∧ (f s).guarded = s.guarded) :
    (w.update other f).isGuarded id = w.isGuarded id := by
  rw [isGuarded, isGuarded, session?_update w other id f fun s => (hf s).1, Option.map_map]
  refine congrArg (fun g => (Option.map g (w.session? id)).getD false) (funext fun s => ?_)
  by_cases ho : id = other <;> simp [ho, hf]

/-- The session is open and not guarded, and inside a bracket where starts are nested. A call in the
foreground has sections enough to give back the tables of the active query. -/
structure Settled (id : SessionId) (nested : Prop) (sections : Nat) (w : World MemoryHost) :
    Prop where
  scope : ∃ x, w.scope? id = some x ∧ (nested → 0 < x.1 ∨ x.2 = true)
  unguarded : w.isGuarded id = false
  enough : 2 ≤ sections
  enough_active : ∀ q ∈ w.active? id, q.locked.length + 2 ≤ sections

lemma Settled.exists_session (h : w.Settled id nested sections) :
    ∃ s, w.session? id = some s ∧ s.guarded = false ∧ s.lockedTables.length + 2 ≤ sections := by
  obtain ⟨x, hx, -⟩ := h.scope
  obtain ⟨s, hs, -⟩ := Option.map_eq_some_iff.1 hx
  refine ⟨s, hs, ?_, ?_⟩
  · rw [← isGuarded_of_session? hs]
    exact h.unguarded
  · cases ha : s.active with
    | none =>
      rw [Session.lockedTables_of_none ha]
      exact h.enough
    | some q =>
      rw [Session.lockedTables, ha]
      exact h.enough_active q (by rw [active?, hs]; exact ha)

lemma Settled.untouched (h : w.Settled id nested sections) (hw : w.Untouched id w') :
    w'.Settled id nested sections where
  scope := by
    obtain ⟨x, hx, hn⟩ := h.scope
    exact ⟨x, by rwa [scope?, hw.session?], hn⟩
  unguarded := by rw [isGuarded, hw.session?]; exact h.unguarded
  enough := h.enough
  enough_active q hq := h.enough_active q (by rwa [active?, hw.session?] at hq)

/-- A change of the brackets that are open. -/
lemma Settled.update (h : w.Settled id nested sections) (other : SessionId) {f : Session → Session}
    (hf : ∀ s, (f s).id = s.id ∧ (f s).guarded = s.guarded ∧ (f s).active = s.active)
    (hx : ∃ x, (w.update other f).scope? id = some x ∧ (nested → 0 < x.1 ∨ x.2 = true)) :
    (w.update other f).Settled id nested sections where
  scope := hx
  unguarded := by
    rw [w.isGuarded_update_of id other fun s => ⟨(hf s).1, (hf s).2.1⟩]
    exact h.unguarded
  enough := h.enough
  enough_active := by
    rw [w.active?_update_of id other fun s => ⟨(hf s).1, (hf s).2.2⟩]
    exact h.enough_active

lemma Settled.weaken (h : w.Settled id nested sections) : w.Settled id False sections where
  scope := by
    obtain ⟨x, hx, -⟩ := h.scope
    exact ⟨x, hx, False.elim⟩
  unguarded := h.unguarded
  enough := h.enough
  enough_active := h.enough_active

/-- In an execution, starts are nested. -/
lemma Settled.enter (h : w.Settled id nested sections) :
    (w.update id Session.enter).Settled id True sections := by
  have hx : ∃ x, (w.update id Session.enter).scope? id = some x ∧
    (True → 0 < x.1 ∨ x.2 = true) := by
    obtain ⟨x, hx, -⟩ := h.scope
    refine ⟨(x.1 + 1, x.2), ?_, fun _ => .inl (Nat.succ_pos _)⟩
    rw [scope?_enter, hx]
    simp
  have h' := h.weaken.update id (f := Session.enter) (fun _ => ⟨rfl, rfl, rfl⟩)
    (hx.imp fun _ hx => ⟨hx.1, False.elim⟩)
  exact ⟨hx, h'.unguarded, h'.enough, h'.enough_active⟩

end World

namespace Regime

variable {id : SessionId} {nested : Prop} {sections : Nat} {w w' w₀ : World MemoryHost}

/-- The session is left tidy, and nobody in the background does anything in it. -/
def ofTidy (id : SessionId) (nested : Prop) (sections : Nat) : Regime where
  holds w := w.Settled id nested sections
  leads w w' := w'.scope? id = w.scope? id ∧ w.Tidy id w'
  allows c := c.Foreign id
  refl w := ⟨rfl, .refl id w⟩
  trans h h' := ⟨h'.1.trans h.1, h.2.trans h'.2⟩
  advance {w c} hw hc := by
    obtain ⟨hu, hc'⟩ := c.untouched hc
    exact ⟨hw.untouched hu, ⟨c.scope?_advance w id, hu.tidy⟩, hc'⟩

lemma ofTidy_restores (id : SessionId) (nested : Prop) (sections : Nat) (other : SessionId) :
    (ofTidy id nested sections).Restores other := by
  have hr := ofNesting_restores id nested (fun _ => True) other
  constructor
  · intro w h
    exact h.update other (fun _ => ⟨rfl, rfl, rfl⟩) (hr.enter h.scope)
  · intro w w' h h' hl
    obtain ⟨hx, hl'⟩ := hr.leave h.scope h'.scope ⟨hl.1, hl.2.toSteady⟩
    exact ⟨h'.update other (fun _ => ⟨rfl, rfl, rfl⟩) hx, hl'.1,
      (World.Tidy.enter w id other).trans (hl.2.trans (.leave w' id other))⟩
  · intro w h
    exact h.update other (fun _ => ⟨rfl, rfl, rfl⟩) (hr.openUtility h.scope)
  · intro w w' h h' hl
    obtain ⟨hx, hl'⟩ := hr.closeUtility h.scope h'.scope ⟨hl.1, hl.2.toSteady⟩
    exact ⟨h'.update other (fun _ => ⟨rfl, rfl, rfl⟩) hx, hl'.1,
      (World.Tidy.setUtility w id other true).trans (hl.2.trans (.setUtility w' id other _))⟩

/-! ### Ends and aborts in the session -/

/-- What ends the active query and is over keeps the regime, if it leaves the session tidy. -/
lemma ofTidy_of_tidy {s s' : Session} (h : w.Settled id nested sections)
    (hs : w.session? id = some s) (hs' : w'.session? id = some s') (hn : s'.nesting = s.nesting)
    (hu : s'.inUtility = s.inUtility) (hg : s'.guarded = false) (ha : s'.active = none)
    (ht : w.Tidy id w') :
    (ofTidy id nested sections).holds w' ∧ (ofTidy id nested sections).leads w w' := by
  have hx : w'.scope? id = w.scope? id := by
    rw [World.scope?, World.scope?, hs, hs', Option.map_some, hn, hu, Option.map_some]
  obtain ⟨x, hx₀, hnest⟩ := h.scope
  refine ⟨⟨⟨x, hx.trans hx₀, hnest⟩, ?_, h.enough, fun q hq => ?_⟩, hx, ht⟩
  · rw [World.isGuarded_of_session? hs', hg]
  · rw [World.active?, hs', Option.bind_some, ha] at hq
    cases hq

/-- The end of a query, in the session itself. -/
lemma finish_course {s : Session} (hw : w₀.Settled id nested sections)
    (hs : w₀.session? id = some s) (hg : s.guarded = false) (key : QueryKey) :
    (ofTidy id nested sections).Course
      (fun fuel (c : Finish) w => c.session = id ∧ c.key = key ∧ match c.phase with
        | .taking => w = w₀ ∧ s.lockedTables.length + 2 ≤ fuel
        | .releasing left => left.length + 1 ≤ fuel ∧ s.activeKey = some key ∧
            w.session? id = some s.vacate ∧ World.GivesBack id s.lockedTables left w₀ w)
      fun _ w => ((ofTidy id nested sections).holds w ∧ (ofTidy id nested sections).leads w₀ w) ∧
        (∀ q ∈ w.active? id, q.key ≠ key) ∧ LockTable.Apart id w₀.host.locks w.host.locks := by
  refine .of_proceeds (fun _ => rfl) ?_
  rintro fuel c w ⟨rfl, rfl, hq⟩
  show Proceeds _ _ (c.advance w)
  obtain ⟨s', hm⟩ := c.move_advance_of (w := w) (s := s) fun ht => by
    rw [ht] at hq
    rw [hq.1]
    exact hs
  generalize c.advance w = x at hm ⊢
  obtain ⟨w', p⟩ := x
  cases hm with
  | barred _ hg' =>
    rw [hg] at hg'
    cases hg'
  | idle hp ha =>
    rw [hp] at hq
    obtain ⟨rfl, -⟩ := hq
    refine ⟨⟨hw, Regime.refl _ _⟩, ?_, LockTable.Apart.refl _ _⟩
    rw [World.active?, hs]
    rintro ⟨key, locked⟩ hq rfl
    exact ha locked hq
  | @took locked hp _ ha =>
    rw [hp] at hq
    obtain ⟨rfl, hf⟩ := hq
    have hl : s.lockedTables = locked := by simp [Session.lockedTables, ha]
    refine ⟨rfl, rfl, ?_, by simp [Session.activeKey, ha],
      World.session?_update_self hs fun _ => rfl, ?_⟩
    · rw [hl] at hf
      simpa using hf
    · rw [hl]
      refine .start ?_ ?_ locked <;> rfl
  | @returned t ts hp =>
    rw [hp] at hq
    obtain ⟨hf, hk, hs', hb⟩ := hq
    exact ⟨rfl, rfl, by simpa using hf, hk, hs', hb.unlock⟩
  | completed hp =>
    rw [hp] at hq
    obtain ⟨-, hk, hs', hb⟩ := hq
    have hs' : World.session? { w with service := (w.service.complete c.key).2 } c.session
        = some s.vacate := hs'
    refine ⟨ofTidy_of_tidy hw hs hs' rfl rfl hg rfl ?_, ?_, hb.apart⟩
    · refine hb.tidy hs hs' rfl rfl rfl fun k _ hn => ?_
      show (w.service.complete c.key).2.status? k = none
      rw [hb.service]
      rcases hn with hn | hn
      · exact Service.status?_complete_eq_none c.key hn
      · obtain ⟨locked, ha⟩ := Session.mem_keys.1 hn
        rw [Session.activeKey, ha] at hk
        rw [← Option.some.inj hk]
        exact (Service.kept_complete _ k k).eq_none.2 (by simp)
    · rw [World.active?, hs']
      rintro q ⟨⟩

/-- An abort, in the session itself. -/
lemma abort_course {s : Session} (hw : w₀.Settled id nested sections) (hs : w₀.session? id = some s)
    (hg : s.guarded = false) :
    (ofTidy id nested sections).Course
      (fun fuel (c : Abort) w => c.session = id ∧ match c.phase with
        | .taking => w = w₀ ∧ s.lockedTables.length + 2 ≤ fuel
        | .releasing left => left.length + 1 ≤ fuel ∧ w.session? id = some s.vacate.guard ∧
            World.GivesBack id s.lockedTables left w₀ w)
      fun _ w => (ofTidy id nested sections).holds w ∧ (ofTidy id nested sections).leads w₀ w := by
  refine .of_proceeds (fun _ => rfl) ?_
  rintro fuel c w ⟨rfl, hq⟩
  show Proceeds _ _ (c.advance w)
  obtain ⟨s', hm⟩ := c.move_advance_of (w := w) (s := s) fun ht => by
    rw [ht] at hq
    rw [hq.1]
    exact hs
  generalize c.advance w = x at hm ⊢
  obtain ⟨w', p⟩ := x
  cases hm with
  | barred _ hg' =>
    rw [hg] at hg'
    cases hg'
  | took hp =>
    rw [hp] at hq
    obtain ⟨rfl, hf⟩ := hq
    refine ⟨rfl, by simpa using hf, World.session?_update_self hs fun _ => rfl, ?_⟩
    refine .start ?_ ?_ s.lockedTables <;> rfl
  | @returned t ts hp =>
    rw [hp] at hq
    obtain ⟨hf, hs', hb⟩ := hq
    exact ⟨rfl, by simpa using hf, hs', hb.unlock⟩
  | swept hp =>
    rw [hp] at hq
    obtain ⟨-, hs', hb⟩ := hq
    have hs' : World.session? { w with service := (w.service.sweep c.session).2 } c.session
        = some s.vacate.guard := hs'
    have hs'' := World.session?_update_self hs' (f := Session.unguard) fun _ => rfl
    refine ofTidy_of_tidy hw hs hs'' rfl rfl rfl rfl (hb.tidy hs hs'' rfl rfl rfl fun k hk _ => ?_)
    exact w.service.status?_sweep_self hk

/-- In a bracket, a start in the session itself. -/
lemma nested_start_course (hn : nested) (w₀ : World MemoryHost) :
    (ofTidy id nested sections).Course
      (fun _ (c : Start) w => c.session = id ∧ c.phase = .entering ∧
        (ofTidy id nested sections).holds w ∧ (ofTidy id nested sections).leads w₀ w)
      fun r w => r = .ok none ∧
        (ofTidy id nested sections).holds w ∧ (ofTidy id nested sections).leads w₀ w :=
  nested_course w₀ fun hw => by
    obtain ⟨x, hs, hx⟩ := hw.scope
    exact ⟨x, hs, hx hn⟩

end Regime

/-! ### What may be done in a bracket -/

lemma Start.native_ofQuery (id : SessionId) (query : Query) : (Start.ofQuery id query).Native where
  queryKey := by rintro k ⟨⟩
  admission := by rintro key a ⟨⟩

/-- A call that the session makes itself: an end, an abort, or a start that is nested. -/
def Call.Inner (id : SessionId) (nested : Prop) : Call → Prop
  | .start c => c.session = id ∧ c.phase = .entering ∧ nested
  | .finish c => c.session = id ∧ c.phase = .taking
  | .abort c => c.session = id ∧ c.phase = .taking
  | .wait _ | .admission _ => False

/-- An operation that does not meddle with the session: it makes calls of the session itself in the
foreground, and calls of other sessions. It neither closes the session nor registers a key of it by
hand, and it takes and frees tables by hand for other sessions only. -/
def Op.Orderly (id : SessionId) (nested : Prop) : Op → Prop
  | .call c => c.Foreign id ∨ c.Inner id nested
  | .spawn c => c.Foreign id
  | .closeSession other => other ≠ id
  | .register key _ _ => key.session ≠ id
  | .lock other _ | .unlock other _ => other ≠ id
  | .openSession _ | .raise _ | .survey _ | .dependencies _ | .complete _ | .pass | .status _
  | .giveUp _ | .markRunning _ | .sweep _ | .shutDown | .held _ _ | .owner _ | .locksHeld _
  | .view _ _ | .unview _ => True

/-- What the operation does to the world, calls apart, leaves the session untouched. -/
lemma Op.Orderly.untouched {op : Op} {id : SessionId} {nested : Prop} (ho : op.Orderly id nested)
    {w : World MemoryHost} (hs : w.session? id ≠ none) : w.Untouched id (op.effect w) where
  session? := Op.session?_effect hs (by rintro rfl; exact ho rfl)
  unregistered k hk hn := Op.status?_eq_none hn fun affected transaction h => by
    rw [h] at ho
    exact ho hk
  owner u := by
    cases op with
    | lock other t => exact LockTable.apart_attempt _ other t u id (Ne.symm ho)
    | unlock other t => exact LockTable.apart_unlock _ other t u id (Ne.symm ho)
    | raise signal => cases signal <;> exact Iff.rfl
    | openSession | closeSession | register | complete | pass | giveUp | markRunning | sweep
    | shutDown | view | unview | call | spawn | survey | dependencies | status | held | owner | locksHeld =>
      exact Iff.rfl

namespace Regime

variable {id : SessionId} {nested : Prop} {patience : Patience} {interruptions : List Interruption}

/-- A call that the session makes itself keeps the regime. -/
lemma ofTidy_passes_inner (hi : (ofTidy id nested patience.call).Abides interruptions) {c : Call}
    (hc : c.Inner id nested) (s : Stage) : (ofTidy id nested patience.call).Passes s
      (s.perform patience interruptions patience.call c .nothing).2.2 := by
  intro hk
  obtain ⟨session, hs, hg, hf⟩ := hk.holds.exists_session
  cases c with
  | start c =>
    obtain ⟨hid, hp, hn⟩ := hc
    refine ((nested_start_course hn s.world.bare).embed (fun _ _ => rfl) fun _ => rfl).passes hi
      .nothing s (fun hw => ⟨c, rfl, hid, hp, hw, Regime.refl _ _⟩) ?_ ?_ hk
    · rintro _ w ⟨c, rfl, -, -, hw⟩
      exact hw
    · rintro _ w ⟨r, rfl, -, hw⟩
      exact hw
  | finish c =>
    refine ((finish_course hk.holds hs hg c.key).embed (fun _ _ => rfl) fun _ => rfl).passes hi
      .nothing s (fun hw => ⟨c, rfl, hc.1, rfl, by rw [hc.2]; exact ⟨rfl, hf⟩⟩) ?_ ?_ hk
    · rintro _ w ⟨c, rfl, -, -, hq⟩
      cases hp : c.phase <;> rw [hp] at hq
      · exact absurd hq.2 (by omega)
      · exact absurd hq.1 (by omega)
    · rintro _ w ⟨-, rfl, hw, -⟩
      exact hw
  | abort c =>
    refine ((abort_course hk.holds hs hg).embed (fun _ _ => rfl) fun _ => rfl).passes hi .nothing s
      (fun hw => ⟨c, rfl, hc.1, by rw [hc.2]; exact ⟨rfl, hf⟩⟩) ?_ ?_ hk
    · rintro _ w ⟨c, rfl, -, hq⟩
      cases hp : c.phase <;> rw [hp] at hq
      · exact absurd hq.2 (by omega)
      · exact absurd hq.1 (by omega)
    · rintro _ w ⟨-, rfl, hw⟩
      exact hw
  | wait | admission => exact hc.elim

/-- The start of an execution, nested or in another session. -/
lemma ofTidy_passes_start (hi : (ofTidy id nested patience.call).Abides interruptions)
    {other : SessionId} (ho : other = id → nested) (query : Query) (s : Stage) :
    (ofTidy id nested patience.call).Passes s
      (s.perform patience interruptions patience.call (Start.ofQuery other query) .nothing).2.2 := by
  by_cases hid : other = id
  · exact (nested_start_course (ho hid) s.world.bare).passes hi .nothing s
      (fun hw => ⟨hid, rfl, hw, Regime.refl _ _⟩) (fun _ _ hq => hq.2.2) fun _ _ hd => hd.2
  · exact passes_start patience hi .nothing s ⟨hid, Start.native_ofQuery other query⟩

/-- Whatever is done in the session's brackets, the session is left tidy. -/
lemma ofTidy_bears (patience : Patience) {q : SessionId → Prop}
    (hq : ∀ other, q other → other = id → nested) :
    (ofTidy id nested patience.call).Bears patience (Op.Orderly id nested) q where
  op {op interruptions} ho hi s := by
    have welcomes (hcalls : ∀ c ∈ op.call?, c.Foreign id) :
        (ofTidy id nested patience.call).Welcomes op := by
      refine ⟨hcalls, fun {w} hw => ?_⟩
      obtain ⟨session, hs, -, -⟩ := hw.exists_session
      have hu := ho.untouched (w := w) (by simp [hs])
      refine ⟨hw.untouched hu, ?_, hu.tidy⟩
      show World.scope? _ id = w.scope? id
      rw [World.scope?, hu.session?, World.scope?]
    cases op with
    | call c =>
      rcases ho with ho | ho
      · refine (welcomes ?_).passes_runOp hi s
        rintro _ ⟨⟩
        exact ho
      · have hp := ofTidy_passes_inner hi ho s
        rw [Scenario.runOp]
        generalize s.perform patience interruptions patience.call c .nothing = x at hp ⊢
        obtain ⟨_ | _, doings, s'⟩ := x <;> exact hp
    | spawn c =>
      refine (welcomes ?_).passes_runOp hi s
      rintro _ ⟨⟩
      exact ho
    | closeSession other =>
      refine (welcomes ?_).passes_runOp hi s
      rintro _ ⟨⟩
      exact ho
    | openSession | register | complete | pass | giveUp | markRunning | sweep | shutDown | lock
    | unlock | view | unview | raise | survey | dependencies | status | held | owner | locksHeld =>
      exact (welcomes (by rintro _ ⟨⟩)).passes_runOp hi s
  start ho hi s := ofTidy_passes_start hi (hq _ ho) _ s
  execute {other query interruptions body outcome} ho hi hbody s hk := by
    refine (ofTidy_restores id nested patience.call other).passes_executed outcome s
      (ofTidy_passes_start hi (hq _ ho) query s) hbody (fun key hr doings s' => ?_) hk
    refine passes_finish patience hi doings s' fun hid => ?_
    -- In the session itself, the start was nested, and gave no key.
    obtain ⟨-, hends, -⟩ := (nested_start_course (hq _ ho hid) s.world.bare).perform patience hi
      patience.call (.ofQuery other query) .nothing hk.allows ⟨hid, rfl, hk.holds, Regime.refl _ _⟩
    obtain ⟨hnone, -⟩ := hends _ hr
    cases hnone
  restores := ofTidy_restores id nested patience.call

end Regime

end QueryAdmission
