import QueryAdmission.Proofs.Absent
import QueryAdmission.Proofs.Charge

/-!
# Starts within brackets

A start in a session that is inside an execution or a utility command is over in its first section.
It changes nothing, and nothing is asked for it (`Start.advance_of_nested`). So whatever goes on
inside such a bracket, the session begins no query, and its active query stays or is taken out by an
end or an abort (`Regime.ofNesting`). A start that is not nested begins one query at most
(`Start.Begins`), and hence so does an execution with all that is nested in it
(`Scenario.nested_starts`).
-/

namespace QueryAdmission

/-! ### What a session has begun -/

namespace World

variable {σ : Type} {w w' w₁ w₂ w₃ : World σ} {id : SessionId} {ends : QueryKey → Prop}

/-- How many queries the session has started to schedule. -/
def sequence? (w : World σ) (id : SessionId) : Option Nat := (w.session? id).map (·.sequence)

/-- The active query of the session. -/
def active? (w : World σ) (id : SessionId) : Option ActiveQuery := (w.session? id).bind (·.active)

lemma sequence?_update_of (w : World σ) (id other : SessionId) {f : Session → Session}
    (hf : ∀ s, (f s).id = s.id ∧ (f s).sequence = s.sequence) :
    (w.update other f).sequence? id = w.sequence? id := by
  rw [sequence?, sequence?, session?_update w other id f fun s => (hf s).1, Option.map_map]
  refine congrArg (Option.map · (w.session? id)) (funext fun s => ?_)
  by_cases ho : id = other <;> simp [ho, hf]

lemma active?_update_of (w : World σ) (id other : SessionId) {f : Session → Session}
    (hf : ∀ s, (f s).id = s.id ∧ (f s).active = s.active) :
    (w.update other f).active? id = w.active? id := by
  rw [active?, active?, session?_update w other id f fun s => (hf s).1, Option.bind_map]
  refine congrArg (Option.bind (w.session? id)) (funext fun s => ?_)
  by_cases ho : id = other <;> simp [ho, hf]

/-- Since the first world, the session has begun no query, and if its active query was taken out, it
is one of those that may end. -/
structure Steady (id : SessionId) (ends : QueryKey → Prop) (w w' : World σ) : Prop where
  sequence : w'.sequence? id = w.sequence? id
  active : w'.active? id = w.active? id ∨
    w'.active? id = none ∧ ∀ q ∈ w.active? id, ends q.key
  unregistered : ∀ k, k.session = id → w.service.status? k = none → w'.service.status? k = none

/-- Since the first world, the session has begun one query, of this key. -/
structure Begun (key : QueryKey) (w w' : World σ) : Prop where
  next : (w.sequence? key.session).map (· + 1) = some key.sequence
  sequence : w'.sequence? key.session = some key.sequence
  active : ∀ q ∈ w'.active? key.session, q.key = key
  unregistered : ∀ k, k.session = key.session → k ≠ key →
    w.service.status? k = none → w'.service.status? k = none

namespace Steady

@[refl]
lemma refl (id : SessionId) (ends : QueryKey → Prop) (w : World σ) : w.Steady id ends w :=
  ⟨rfl, .inl rfl, fun _ _ h => h⟩

lemma trans (h : w₁.Steady id ends w₂) (h' : w₂.Steady id ends w₃) : w₁.Steady id ends w₃ where
  sequence := h'.sequence.trans h.sequence
  active := by
    rcases h.active with ha | ⟨ha, hq⟩
    · rcases h'.active with ha' | ⟨ha', hq'⟩
      · exact .inl (ha'.trans ha)
      · exact .inr ⟨ha', by rwa [ha] at hq'⟩
    · rcases h'.active with ha' | ⟨ha', -⟩
      · exact .inr ⟨ha'.trans ha, hq⟩
      · exact .inr ⟨ha', hq⟩
  unregistered k hk hn := h'.unregistered k hk (h.unregistered k hk hn)

lemma of_session?_eq (hs : w'.session? id = w.session? id)
    (hn : ∀ k, k.session = id → w.service.status? k = none → w'.service.status? k = none) :
    w.Steady id ends w' :=
  ⟨by rw [sequence?, sequence?, hs], .inl (by rw [active?, active?, hs]), hn⟩

lemma of_session? {s s' : Session} (hs : w.session? id = some s) (hs' : w'.session? id = some s')
    (hq : s'.sequence = s.sequence)
    (ha : s'.active = s.active ∨ s'.active = none ∧ ∀ q ∈ s.active, ends q.key)
    (hn : ∀ k, k.session = id → w.service.status? k = none → w'.service.status? k = none) :
    w.Steady id ends w' :=
  ⟨by simp [sequence?, hs, hs', hq], by simpa [active?, hs, hs'] using ha, hn⟩

/-- A change of the brackets that are open. -/
lemma update (w : World σ) (id other : SessionId) (ends : QueryKey → Prop) {f : Session → Session}
    (hf : ∀ s, (f s).id = s.id ∧ (f s).sequence = s.sequence ∧ (f s).active = s.active) :
    w.Steady id ends (w.update other f) :=
  ⟨w.sequence?_update_of id other fun s => ⟨(hf s).1, (hf s).2.1⟩,
    .inl (w.active?_update_of id other fun s => ⟨(hf s).1, (hf s).2.2⟩), fun _ _ h => h⟩

lemma enter (w : World σ) (id other : SessionId) (ends : QueryKey → Prop) :
    w.Steady id ends (w.update other Session.enter) :=
  update w id other ends fun _ => ⟨rfl, rfl, rfl⟩

lemma leave (w : World σ) (id other : SessionId) (ends : QueryKey → Prop) :
    w.Steady id ends (w.update other Session.leave) :=
  update w id other ends fun _ => ⟨rfl, rfl, rfl⟩

lemma setUtility (w : World σ) (id other : SessionId) (ends : QueryKey → Prop) (b : Bool) :
    w.Steady id ends (w.update other (·.setUtility b)) :=
  update w id other ends fun _ => ⟨rfl, rfl, rfl⟩

lemma begun {key : QueryKey} (h : w₁.Steady key.session ends w₂) (h' : Begun key w₂ w₃) :
    Begun key w₁ w₃ :=
  ⟨h.sequence ▸ h'.next, h'.sequence, h'.active, fun k hk hne hn =>
    h'.unregistered k hk hne (h.unregistered k hk hn)⟩

end Steady

lemma Begun.steady {key : QueryKey} (h : Begun key w₁ w₂) (h' : w₂.Steady key.session ends w₃) :
    Begun key w₁ w₃ where
  next := h.next
  sequence := h'.sequence.trans h.sequence
  active q hq := by
    rcases h'.active with ha | ⟨ha, -⟩
    · exact h.active q (ha ▸ hq)
    · rw [ha] at hq
      cases hq
  unregistered k hk hne hn := h'.unregistered k hk (h.unregistered k hk hne hn)

section Recorded

variable {w w' : World (Recorded σ)} {id : SessionId} {ends : QueryKey → Prop}

lemma steady_bare : w.bare.Steady id ends w'.bare ↔ w.Steady id ends w' :=
  ⟨fun h => ⟨h.1, h.2, h.3⟩, fun h => ⟨h.1, h.2, h.3⟩⟩

lemma begun_bare {key : QueryKey} : Begun key w.bare w'.bare ↔ Begun key w w' :=
  ⟨fun h => ⟨h.1, h.2, h.3, h.4⟩, fun h => ⟨h.1, h.2, h.3, h.4⟩⟩

end Recorded

end World

/-! ### Starts that are nested -/

/-- In a session that is inside a bracket, a start has nothing to do. It waits at most until nobody
else has the session's state guarded. -/
lemma Start.advance_of_nested {σ : Type} [Catalogue σ] [Locking σ] {w : World σ} {id : SessionId}
    {x : Nat × Bool} (hs : w.scope? id = some x) (hn : 0 < x.1 ∨ x.2 = true) (query : Query) :
    (Start.ofQuery id query).advance w
      = (w, if w.isGuarded id then .sleep (.ofQuery id query) else .done (.ok none)) := by
  obtain ⟨s, ho, rfl⟩ := Option.map_eq_some_iff.1 hs
  have he : s.enforces query = false := by
    rcases hn with hn | hn
    · simp [Session.enforces, Nat.ne_of_gt hn]
    · simp [Session.enforces, show s.inUtility = true from hn]
  rw [World.isGuarded_of_session? ho]
  cases hg : s.guarded <;> simp [Start.ofQuery, advance, ho, hg, he]

/-- A call that takes no query of the session out unless it is one of those that may end, and that
starts none, except where starts are nested. -/
def Call.Spares (id : SessionId) (nested : Prop) (ends : QueryKey → Prop) : Call → Prop
  | .start c => (∀ k ∈ c.queryKey?, k.session = c.session) ∧
      (c.session = id → nested ∧ c.phase = .entering)
  | .finish c => c.session = id → c.phase = .taking → ends c.key
  | .abort c => c.session = id → c.phase = .taking → ∀ key, ends key
  | .wait _ | .admission _ => True

/-- An operation that makes or begins no other calls than these, does not close the session, and
registers none of its keys by hand. -/
def Op.Spares (id : SessionId) (nested : Prop) (ends : QueryKey → Prop) : Op → Prop
  | .call c | .spawn c => c.Spares id nested ends
  | .closeSession other => other ≠ id
  | .register key _ _ => key.session ≠ id
  | .openSession _ | .raise _ | .survey _ | .dependencies _ | .complete _ | .pass | .status _
  | .giveUp _ | .markRunning _ | .sweep _ | .shutDown | .lock _ _ | .unlock _ _ | .held _ _
  | .owner _ | .locksHeld _ | .view _ _ | .unview _ => True

lemma Call.Spares.nest {id : SessionId} {ends : QueryKey → Prop} {c : Call}
    (h : c.Spares id False ends) : c.Spares id True ends := by
  cases c with
  | start c => exact ⟨h.1, fun hid => (h.2 hid).1.elim⟩
  | finish | abort | wait | admission => exact h

section Sections

variable {id : SessionId} {nested : Prop} {ends : QueryKey → Prop} {w w' : World MemoryHost}

/-- A start in another session. -/
lemma Start.steady_advance (c : Start) (hi : id ≠ c.session)
    (hc : ∀ k ∈ c.queryKey?, k.session = c.session) :
    w.Steady id ends (c.advance w).1 ∧
      ∀ c' ∈ (c.advance w).2.call?,
        c'.session = c.session ∧ ∀ k ∈ c'.queryKey?, k.session = c'.session := by
  rcases c.exists_move w with h | ⟨s, s', hs, h⟩
  · rw [h]
    exact ⟨.refl id ends w, by rintro _ ⟨⟩⟩
  · refine ⟨.of_session?_eq (h.session?_ne hi) fun k hk hn => h.status?_eq_none hn fun hq => ?_,
      fun c' hc' => ?_⟩
    · exact hi (hk ▸ hc k hq)
    · have hid := h.session_eq hc'
      refine ⟨hid, fun k hk => ?_⟩
      rw [hid]
      rcases h.queryKey?_eq hc' with hq | ⟨-, hq, -⟩
      · exact hc k (hq ▸ hk)
      · rw [hq] at hk
        obtain rfl := Option.some.inj hk
        exact hs

lemma Finish.steady_advance (hs : w.session? id ≠ none) (c : Finish)
    (hc : c.session = id → c.phase = .taking → ends c.key) :
    w.Steady id ends (c.advance w).1 ∧
      ∀ c' ∈ (c.advance w).2.call?, c'.session = id → c'.phase = .taking → ends c'.key := by
  by_cases hi : id = c.session
  · subst hi
    obtain ⟨s, hs⟩ := Option.ne_none_iff_exists'.1 hs
    obtain ⟨s', h⟩ := c.move_advance hs
    refine ⟨.of_session? hs (h.session?_eq hs) ?_ ?_ fun k _ => h.status?_eq_none,
      fun c' hc' _ hp' => ?_⟩
    · generalize c.advance w = x at h
      obtain ⟨w', p⟩ := x
      cases h <;> rfl
    · generalize c.advance w = x at h
      obtain ⟨w', p⟩ := x
      cases h with
      | barred | idle | returned | completed => exact .inl rfl
      | took hp _ ha => exact .inr ⟨rfl, by rw [ha]; rintro _ ⟨⟩; exact hc rfl hp⟩
    · generalize c.advance w = x at h hc'
      obtain ⟨w', p⟩ := x
      cases h with
      | barred =>
        cases hc'
        exact hc rfl hp'
      | took | returned =>
        cases hc'
        cases hp'
      | idle | completed => cases hc'
  · rcases c.exists_move w with h | ⟨s, s', -, h⟩
    · rw [h]
      exact ⟨.refl id ends w, by rintro _ ⟨⟩⟩
    · exact ⟨.of_session?_eq (h.session?_ne hi) fun k _ => h.status?_eq_none,
        fun c' hc' hid => absurd (hid.symm.trans (h.session_eq hc')) hi⟩

lemma Abort.steady_advance (hs : w.session? id ≠ none) (c : Abort)
    (hc : c.session = id → c.phase = .taking → ∀ key, ends key) :
    w.Steady id ends (c.advance w).1 ∧
      ∀ c' ∈ (c.advance w).2.call?, c'.session = id → c'.phase = .taking → ∀ key, ends key := by
  by_cases hi : id = c.session
  · subst hi
    obtain ⟨s, hs⟩ := Option.ne_none_iff_exists'.1 hs
    obtain ⟨s', h⟩ := c.move_advance hs
    refine ⟨.of_session? hs (h.session?_eq hs) ?_ ?_ fun k _ => h.status?_eq_none,
      fun c' hc' _ hp' => ?_⟩
    · generalize c.advance w = x at h
      obtain ⟨w', p⟩ := x
      cases h <;> rfl
    · generalize c.advance w = x at h
      obtain ⟨w', p⟩ := x
      cases h with
      | barred | returned | swept => exact .inl rfl
      | took hp => exact .inr ⟨rfl, fun q _ => hc rfl hp q.key⟩
    · generalize c.advance w = x at h hc'
      obtain ⟨w', p⟩ := x
      cases h with
      | barred =>
        cases hc'
        exact hc rfl hp'
      | took | returned =>
        cases hc'
        cases hp'
      | swept => cases hc'
  · rcases c.exists_move w with h | ⟨s, s', -, h⟩
    · rw [h]
      exact ⟨.refl id ends w, by rintro _ ⟨⟩⟩
    · exact ⟨.of_session?_eq (h.session?_ne hi) fun k _ => h.status?_eq_none,
        fun c' hc' hid => absurd (hid.symm.trans (h.session_eq hc')) hi⟩

/-- A call that spares the session leaves it steady. -/
lemma Call.steady_advance {x : Nat × Bool} (hs : w.scope? id = some x)
    (hn : nested → 0 < x.1 ∨ x.2 = true) (c : Call) (hc : c.Spares id nested ends) :
    w.Steady id ends (c.advance w).1 ∧ ∀ c' ∈ (c.advance w).2.call?, c'.Spares id nested ends := by
  have ho := World.session?_ne_none_of_scope? hs
  cases c with
  | start c =>
    rw [advance, fst_embed, call?_embed]
    by_cases hi : id = c.session
    · subst hi
      obtain ⟨hw, hp⟩ := hc.2 rfl
      have he : c = .ofQuery c.session c.query := by rw [Start.ofQuery, ← hp]
      rw [he, Start.advance_of_nested hs (hn hw)]
      refine ⟨.refl _ ends w, fun c' hc' => ?_⟩
      split_ifs at hc'
      · obtain rfl := Option.some.inj hc'
        exact ⟨by rintro k ⟨⟩, fun _ => ⟨hw, rfl⟩⟩
      · cases hc'
    · obtain ⟨hw, hc'⟩ := c.steady_advance hi hc.1
      refine ⟨hw, fun c' h => ?_⟩
      obtain ⟨c', hm, rfl⟩ := Option.map_eq_some_iff.1 h
      obtain ⟨hid, hk⟩ := hc' c' hm
      exact ⟨hk, fun h => absurd (h.symm.trans hid) hi⟩
  | finish c =>
    rw [advance, fst_embed, call?_embed]
    obtain ⟨hw, hc'⟩ := c.steady_advance ho hc
    refine ⟨hw, fun c' h => ?_⟩
    obtain ⟨c', hm, rfl⟩ := Option.map_eq_some_iff.1 h
    exact hc' c' hm
  | abort c =>
    rw [advance, fst_embed, call?_embed]
    obtain ⟨hw, hc'⟩ := c.steady_advance ho hc
    refine ⟨hw, fun c' h => ?_⟩
    obtain ⟨c', hm, rfl⟩ := Option.map_eq_some_iff.1 h
    exact hc' c' hm
  | wait c =>
    rw [advance, fst_embed, call?_embed]
    refine ⟨.of_session?_eq ?_ fun k _ hn => (c.noneJoins w).absent k hn, fun c' h => ?_⟩
    · rw [World.session?, c.sessions_advance w]
      rfl
    · obtain ⟨c', -, rfl⟩ := Option.map_eq_some_iff.1 h
      trivial
  | admission a =>
    rw [advance, fst_embed, call?_embed]
    refine ⟨.of_session?_eq ?_ fun k _ hn => (a.noneJoins w).absent k hn, fun c' h => ?_⟩
    · rw [World.session?, a.sessions_advance w]
      rfl
    · obtain ⟨c', -, rfl⟩ := Option.map_eq_some_iff.1 h
      trivial

end Sections

/-! ### Steps inside a bracket -/

namespace Regime

variable {id : SessionId} {nested : Prop} {ends : QueryKey → Prop} {w w' : World MemoryHost}

/-- The session is open, and inside a bracket where starts are nested. Its scope stays the same, and
it begins no query. -/
def ofNesting (id : SessionId) (nested : Prop) (ends : QueryKey → Prop) : Regime where
  holds w := ∃ x, w.scope? id = some x ∧ (nested → 0 < x.1 ∨ x.2 = true)
  leads w w' := w'.scope? id = w.scope? id ∧ w.Steady id ends w'
  allows c := c.Spares id nested ends
  refl w := ⟨rfl, .refl id ends w⟩
  trans h h' := ⟨h'.1.trans h.1, h.2.trans h'.2⟩
  advance {w c} := by
    rintro ⟨x, hs, hn⟩ hc
    obtain ⟨hw, hc'⟩ := c.steady_advance hs hn hc
    have hx := c.scope?_advance w id
    exact ⟨⟨x, hx.trans hs, hn⟩, ⟨hx, hw⟩, hc'⟩

lemma ofScope_holds_of_ofNesting (h : (ofNesting id nested ends).holds w) :
    (ofScope id).holds w := by
  obtain ⟨x, hs, -⟩ := h
  rw [ofScope_holds_iff, hs]
  exact Option.some_ne_none x

lemma ofNesting_restores (id : SessionId) (nested : Prop) (ends : QueryKey → Prop)
    (other : SessionId) : (ofNesting id nested ends).Restores other where
  enter {w} h := by
    obtain ⟨x, hs, hn⟩ := h
    refine ⟨_, by rw [World.scope?_enter, hs]; rfl, fun h => ?_⟩
    rcases hn h with hn | hn
    · exact .inl (Nat.add_pos_left hn _)
    · exact .inr hn
  leave {w w'} h h' hl := by
    have hx := ((ofScope_restores id other).leave (ofScope_holds_of_ofNesting h)
      (ofScope_holds_of_ofNesting h') hl.1).2
    obtain ⟨x, hs, hn⟩ := h
    exact ⟨⟨x, hx.trans hs, hn⟩, hx,
      (World.Steady.enter w id other ends).trans (hl.2.trans (.leave w' id other ends))⟩
  openUtility {w} h := by
    obtain ⟨x, hs, hn⟩ := h
    refine ⟨_, by rw [World.scope?_setUtility, hs]; rfl, fun h => ?_⟩
    rcases hn h with hn | hn
    · exact .inl hn
    · right
      show (if other = id then true else x.2) = true
      simp [hn]
  closeUtility {w w'} h h' hl := by
    have hx := ((ofScope_restores id other).closeUtility (ofScope_holds_of_ofNesting h)
      (ofScope_holds_of_ofNesting h') hl.1).2
    obtain ⟨x, hs, hn⟩ := h
    exact ⟨⟨x, hx.trans hs, hn⟩, hx,
      (World.Steady.setUtility w id other ends true).trans
        (hl.2.trans (.setUtility w' id other ends _))⟩

/-- A start in the foreground, where a regime keeps the session inside a bracket. -/
lemma nested_course {R : Regime} (w₀ : World MemoryHost)
    (h : ∀ {w}, R.holds w → ∃ x, w.scope? id = some x ∧ (0 < x.1 ∨ x.2 = true)) :
    R.Course
      (fun _ (c : Start) w => c.session = id ∧ c.phase = .entering ∧ R.holds w ∧ R.leads w₀ w)
      fun r w => r = .ok none ∧ R.holds w ∧ R.leads w₀ w := by
  have own {w : World MemoryHost} {c : Start} (hi : c.session = id) (hp : c.phase = .entering)
      (hw : R.holds w) :
      Stepping.step w c = (w, if w.isGuarded id then .sleep c else .done (.ok none)) := by
    obtain ⟨x, hs, hx⟩ := h hw
    subst hi
    have hc : c = .ofQuery c.session c.query := by rw [Start.ofQuery, ← hp]
    have h := Start.advance_of_nested hs hx c.query
    rwa [← hc] at h
  constructor
  · rintro fuel c w ⟨hi, hp, hw, hl⟩ -
    exact ⟨hw, fun hw' hl' => ⟨hi, hp, hw', R.trans hl hl'⟩⟩
  · rintro fuel c c' w ⟨hi, hp, hw, hl⟩ hn
    rw [own hi hp hw] at hn
    dsimp only at hn
    split_ifs at hn
  · rintro fuel c c' w ⟨hi, hp, hw, hl⟩ hn
    rw [own hi hp hw] at hn ⊢
    dsimp only at hn
    split_ifs at hn
    obtain rfl := Progress.sleep.inj hn
    exact ⟨hw, fun hw' hl' => ⟨hi, hp, hw', R.trans hl hl'⟩⟩
  · rintro fuel c w r ⟨hi, hp, hw, hl⟩ hn
    rw [own hi hp hw] at hn ⊢
    dsimp only at hn
    split_ifs at hn
    exact ⟨(Progress.done.inj hn).symm, hw, hl⟩

/-- Whatever is in a step, a session that is spared is steady; executions in it have to be nested.
-/
lemma ofNesting_bears (patience : Patience) (ends : QueryKey → Prop) {q : SessionId → Prop}
    (hq : ∀ other, q other → other = id → nested) :
    (ofNesting id nested ends).Bears patience (Op.Spares id nested ends) q where
  op {op interruptions} ho hi s := by
    have hclose : op ≠ .closeSession id := by
      rintro rfl
      exact ho rfl
    refine Welcomes.passes_runOp ⟨fun c hc => ?_, fun {w} hw => ?_⟩ hi s
    · cases op with
      | call c' | spawn c' =>
        obtain rfl := Option.some.inj hc
        exact ho
      | closeSession other =>
        obtain rfl := Option.some.inj hc
        exact fun hid => absurd hid ho
      | _ => cases hc
    · obtain ⟨x, hs, hn⟩ := hw
      have hsame := Op.session?_effect (World.session?_ne_none_of_scope? hs) hclose
      have hx : (op.effect w).scope? id = w.scope? id := by rw [World.scope?, World.scope?, hsame]
      refine ⟨⟨x, hx.trans hs, hn⟩, hx, .of_session?_eq hsame fun k hk hn => ?_⟩
      refine Op.status?_eq_none hn fun affected transaction h => ?_
      rw [h] at ho
      exact ho hk
  start {other query interruptions} ho hi s :=
    passes_start patience hi .nothing s ⟨by rintro k ⟨⟩, fun h => ⟨hq _ ho h, rfl⟩⟩
  execute {other query interruptions body outcome} ho hi hbody s hk := by
    refine (ofNesting_restores id nested ends other).passes_executed outcome s
      (passes_start patience hi .nothing s ⟨by rintro k ⟨⟩, fun h => ⟨hq _ ho h, rfl⟩⟩) hbody
      (fun key hr doings s' => ?_) hk
    refine passes_finish patience hi doings s' fun hid _ => ?_
    have hn : nested := hq _ ho hid
    have hcourse := nested_course (R := ofNesting id nested ends) s.world.bare fun {w} hw => by
      obtain ⟨x, hs, hx⟩ := hw
      exact ⟨x, hs, hx hn⟩
    obtain ⟨hnone, -⟩ := (hcourse.perform patience hi patience.call (.ofQuery other query) .nothing
      hk.allows ⟨hid, rfl, hk.holds, Regime.refl _ _⟩).2.1 _ hr
    cases hnone
  restores := ofNesting_restores id nested ends

end Regime

/-! ### Starts that are not nested -/

namespace Start

variable {w₀ w w' : World MemoryHost} {s s' : Session} {c : Start}
  {p : Progress Start (Except Refusal (Option QueryKey))}

/-- Beyond its entry, a start leaves the session's number of queries alone. -/
lemma Move.sequence_eq (h : c.Move w s w' s' p) (hp : c.phase ≠ .entering) :
    s'.sequence = s.sequence := by
  cases h with
  | barred | ignored | returned | finished | asked | registered | refused | admission | unlocked
  | approved | denied | installed | failed => rfl
  | entered hq => exact absurd hq hp

/-- Beyond its entry, a start leaves the active query alone, unless it installs its own. -/
lemma Move.active_eq (h : c.Move w s w' s' p) (hp : c.phase ≠ .entering) :
    s'.active = s.active ∨ ∃ key locked, c.phase = .installing key locked ∧
      s'.active = some ⟨key, locked⟩ ∧ p = .done (.ok (some key)) := by
  cases h with
  | barred | ignored | returned | finished | asked | registered | refused | admission | unlocked
  | approved | denied | failed => exact .inl rfl
  | entered hq => exact absurd hq hp
  | @installed key locked hq => exact .inr ⟨key, locked, hq, rfl, rfl⟩

/-- Beyond its entry, a start succeeds only by installing its query. -/
lemma Move.installing_of_ok {key? : Option QueryKey} (h : c.Move w s w' s' (.done (.ok key?)))
    (hp : c.phase ≠ .entering) :
    ∃ key locked, c.phase = .installing key locked ∧ key? = some key ∧
      s'.active = some ⟨key, locked⟩ := by
  generalize hr : Progress.done (Except.ok key?) = p at h
  cases h with
  | ignored hq => exact absurd hq hp
  | @installed key locked hq =>
    cases hr
    exact ⟨key, locked, hq, rfl, rfl⟩
  | @admission key a p => rcases p with a' | a' | (r | locked) <;> cases hr
  | _ => cases hr

/-- Where a start stands: before its entry the session has begun nothing, and afterwards the query
of the start, which is not active yet. -/
def Begins (w₀ : World MemoryHost) (c : Start) (w : World MemoryHost) : Prop :=
  match c.queryKey? with
  | none => w₀.Steady c.session (fun _ => True) w
  | some key => key.session = c.session ∧ World.Begun key w₀ w ∧ w.active? c.session = none

/-- What a start has done when it is over: the session has begun at most one query, and has it for
its active one if the start has succeeded. -/
def Achieves {σ : Type} (w₀ : World σ) (id : SessionId) (r : Except Refusal (Option QueryKey))
    (w : World σ) : Prop :=
  match r with
  | .ok none => w₀.Steady id (fun _ => True) w
  | .ok (some key) =>
    key.session = id ∧ World.Begun key w₀ w ∧ ∃ locked, w.active? id = some ⟨key, locked⟩
  | .error _ => ∃ key, key.session = id ∧ World.Begun key w₀ w

lemma achieves_bare {σ : Type} {w₀ w : World (Recorded σ)} {id : SessionId}
    {r : Except Refusal (Option QueryKey)} : Achieves w₀.bare id r w.bare ↔ Achieves w₀ id r w := by
  rcases r with e | _ | key
  · exact exists_congr fun key => and_congr_right fun _ => World.begun_bare
  · exact World.steady_bare
  · exact and_congr_right fun _ => and_congr_left fun _ => World.begun_bare

lemma Begins.steady (h : c.Begins w₀ w) (hw : w.Steady c.session (fun _ => True) w') :
    c.Begins w₀ w' := by
  rw [Begins] at h ⊢
  split at h
  · exact h.trans hw
  · obtain ⟨hk, hb, ha⟩ := h
    refine ⟨hk, hb.steady (hk ▸ hw), ?_⟩
    rcases hw.active with hq | ⟨hq, -⟩
    · exact hq.trans ha
    · exact hq

/-- What a section of the start makes of this before the entry. -/
lemma Move.begins_of_entering (h : c.Move w s w' s' p) (hs : w.session? c.session = some s)
    (hp : c.phase = .entering) (hw : w₀.Steady c.session (fun _ => True) w) :
    (∀ c' ∈ p.call?, c'.session = c.session ∧ c'.Begins w₀ w') ∧
      ∀ r, p = .done r → Achieves w₀ c.session r w' := by
  have hs' := h.session?_eq hs
  cases h with
  | barred =>
    refine ⟨?_, by rintro r ⟨⟩⟩
    rintro c' ⟨⟩
    refine ⟨rfl, ?_⟩
    rw [Begins, show c.queryKey? = none by simp [queryKey?, hp]]
    exact hw
  | ignored =>
    refine ⟨by rintro c' ⟨⟩, ?_⟩
    rintro r ⟨⟩
    exact hw
  | entered =>
    refine ⟨?_, by rintro r ⟨⟩⟩
    rintro c' ⟨⟩
    have hid : s.nextKey.session = c.session := World.id_of_session? hs
    have hb : World.Begun s.nextKey w { w.update c.session Session.advance with
        signals := w.signals.lower (.session c.session) } := by
      constructor
      · rw [hid, World.sequence?, hs]
        rfl
      · rw [hid, World.sequence?, hs']
        rfl
      · rw [hid, World.active?, hs']
        rintro q ⟨⟩
      · exact fun k _ _ hn => hn
    have hk : (c.inPhase (.afterEntry s.nextKey c.query.affected s.active)).queryKey?
        = some s.nextKey := by
      rcases s.active with _ | q <;> rfl
    have hw : w₀.Steady s.nextKey.session (fun _ => True) w := by rwa [hid]
    refine ⟨rfl, ?_⟩
    rw [Begins, hk]
    refine ⟨hid, hw.begun hb, ?_⟩
    show World.active? _ c.session = none
    rw [World.active?, hs']
    rfl
  | returned hq | finished hq | asked hq | registered hq | refused hq | admission hq | approved hq
  | denied hq | installed hq | unlocked hq | failed hq =>
    rw [hp] at hq
    cases hq

/-- Beyond the entry, a section of the start leaves it at the one query. -/
lemma Move.begun (h : c.Move w s w' s' p) (hs : w.session? c.session = some s) {key : QueryKey}
    (hk : c.queryKey? = some key) (hid : key.session = c.session) (ha : s.active = none)
    (hb : World.Begun key w₀ w) : World.Begun key w₀ w' := by
  have hs' := h.session?_eq hs
  have hp : c.phase ≠ .entering := queryKey?_isSome.1 (by rw [hk]; rfl)
  refine ⟨hb.next, ?_, fun q hq => ?_, fun k hk' hne hn => ?_⟩
  · rw [← hb.sequence, hid, World.sequence?, World.sequence?, hs, hs', Option.map_some,
      h.sequence_eq hp, Option.map_some]
  · rw [hid, World.active?, hs', Option.bind_some] at hq
    rcases h.active_eq hp with hact | ⟨key', locked, hq', hact, -⟩
    · rw [hact, ha] at hq
      cases hq
    · rw [hact] at hq
      rw [queryKey?, hq'] at hk
      rw [← Option.some.inj hq]
      exact Option.some.inj hk
  · refine h.status?_eq_none (hb.unregistered k hk' hne hn) fun hq => hne ?_
    exact Option.some.inj (hq.symm.trans hk)

/-- What a section of the start makes of this beyond the entry. -/
lemma Move.begins_of_queryKey? (h : c.Move w s w' s' p) (hs : w.session? c.session = some s)
    {key : QueryKey} (hk : c.queryKey? = some key) (hid : key.session = c.session)
    (ha : s.active = none) (hb : World.Begun key w₀ w) :
    (∀ c' ∈ p.call?, c'.session = c.session ∧ c'.Begins w₀ w') ∧
      ∀ r, p = .done r → Achieves w₀ c.session r w' := by
  have hs' := h.session?_eq hs
  have hb' := h.begun hs hk hid ha hb
  have hp : c.phase ≠ .entering := queryKey?_isSome.1 (by rw [hk]; rfl)
  refine ⟨fun c' hc' => ?_, fun r hr => ?_⟩
  · have hid' := h.session_eq hc'
    refine ⟨hid', ?_⟩
    rcases h.queryKey?_eq hc' with hq | ⟨he, -⟩
    · rw [Begins, hq, hk, hid']
      refine ⟨hid, hb', ?_⟩
      rw [World.active?, hs', Option.bind_some]
      rcases h.active_eq hp with hact | ⟨_, _, -, -, hdone⟩
      · exact hact.trans ha
      · rw [hdone] at hc'
        cases hc'
    · exact absurd he hp
  · subst hr
    rcases r with e | key?
    · exact ⟨key, hid, hb'⟩
    · obtain ⟨key', locked, hq, rfl, hact⟩ := h.installing_of_ok hp
      rw [queryKey?, hq] at hk
      obtain rfl := Option.some.inj hk
      refine ⟨hid, hb', locked, ?_⟩
      rw [World.active?, hs', Option.bind_some]
      exact hact

lemma Begins.advance (ho : w.session? c.session ≠ none) (h : c.Begins w₀ w) :
    (∀ c' ∈ (c.advance w).2.call?, c'.session = c.session ∧ c'.Begins w₀ (c.advance w).1) ∧
      ∀ r, (c.advance w).2 = .done r → Achieves w₀ c.session r (c.advance w).1 := by
  obtain ⟨s, hs⟩ := Option.ne_none_iff_exists'.1 ho
  obtain ⟨s', hm⟩ := c.move_advance hs
  rw [Begins] at h
  split at h
  case h_1 hk =>
    have hp : c.phase = .entering := by
      by_contra hp
      have hsome := queryKey?_isSome.2 hp
      rw [hk] at hsome
      cases hsome
    exact hm.begins_of_entering hs hp h
  case h_2 key hk =>
    obtain ⟨hid, hb, ha⟩ := h
    rw [World.active?, hs, Option.bind_some] at ha
    exact hm.begins_of_queryKey? hs hk hid ha hb

end Start

/-- A start in the foreground, while nobody else starts anything in the session. -/
lemma Regime.begins_course (id : SessionId) (w₀ : World MemoryHost) :
    (ofNesting id False fun _ => True).Course
      (fun _ (c : Start) w => c.session = id ∧ (ofNesting id False fun _ => True).holds w ∧
        c.Begins w₀ w)
      fun r w => (ofNesting id False fun _ => True).holds w ∧ Start.Achieves w₀ id r w := by
  have own {w : World MemoryHost} {c : Start}
      (hw : (ofNesting c.session False fun _ => True).holds w) :
      w.session? c.session ≠ none ∧
        (ofNesting c.session False fun _ => True).holds (Stepping.step w c).1 := by
    obtain ⟨x, hs, hn⟩ := hw
    have hx := (Call.start c).scope?_advance w c.session
    rw [Call.advance, Call.fst_embed] at hx
    exact ⟨World.session?_ne_none_of_scope? hs, x, hx.trans hs, hn⟩
  constructor
  · rintro fuel c w ⟨rfl, hw, hc⟩ -
    exact ⟨hw, fun hw' hl => ⟨rfl, hw', hc.steady hl.2⟩⟩
  · rintro fuel c c' w ⟨rfl, hw, hc⟩ h
    obtain ⟨ho, hw'⟩ := own hw
    obtain ⟨hid, hc'⟩ := (hc.advance ho).1 c' (by rw [show (c.advance w).2 = _ from h]; rfl)
    exact ⟨hid, hw', hc'⟩
  · rintro fuel c c' w ⟨rfl, hw, hc⟩ h
    obtain ⟨ho, hw'⟩ := own hw
    obtain ⟨hid, hc'⟩ := (hc.advance ho).1 c' (by rw [show (c.advance w).2 = _ from h]; rfl)
    refine ⟨hw', fun hw'' hl => ⟨hid, hw'', hc'.steady ?_⟩⟩
    rw [hid]
    exact hl.2
  · rintro fuel c w r ⟨rfl, hw, hc⟩ h
    obtain ⟨ho, hw'⟩ := own hw
    exact ⟨hw', (hc.advance ho).2 r h⟩

namespace Scenario

variable {patience : Patience} {id : SessionId} {steps : List Step} {s s' : Stage} {x : Point}

/-- Wherever a scenario comes to within an execution or a utility command of the session, at any
depth and whatever happened before, starts in the session are over in their first section: they have
no key, change nothing, and make no contact. This is so in every world in which the session has the
scope that it has there; a start waits at most until nobody else has the session's state guarded.

Hence an execution with all that is nested in it begins one query at most. The start begins it, if
it begins any. At every point of the body, the query of the start is the only one that was begun
since, and it is still the active one, unless an end of that query or an abort took it out. At first
the background and the hooks start nothing else in the session, and in the body nobody closes the
session or registers one of its keys by hand. -/
theorem nested_starts (h : Reaches patience id steps s x s')
    (hs : Step.AllIn (· ≠ .closeSession id) (fun _ => True) steps) {n : Nat} {u : Bool}
    (ho : s.world.scope? id = some (n, u)) :
    (0 < n + x.depth ∨ (u || x.inUtility) = true →
      ∀ w : World (Recorded MemoryHost), w.scope? id = s'.world.scope? id → ∀ query,
        (Start.ofQuery id query).advance w
          = (w, if w.isGuarded id then .sleep (.ofQuery id query) else .done (.ok none))) ∧
    ∀ query body hooks,
      (∀ f ∈ s'.calls, f.call.Spares id False fun _ => True) →
      Hook.AllIn? (Op.Spares id False fun _ => True) (· ≠ id) hooks →
      ∀ r doings s₁,
        s'.perform patience (hooked? patience hooks) patience.call (Start.ofQuery id query) .nothing
          = (some r, doings, s₁) →
        Start.Achieves s'.world id r s₁.world ∧
        ∀ key?, r = .ok key? → ∀ y s₂,
          Reaches patience id body (s₁.mapWorld (·.update id Session.enter)) y s₂ →
          (∀ step ∈ y.passed, step.All (Op.Spares id True fun _ => True) fun _ => True) →
          (key? = none → s'.world.Steady id (fun _ => True) s₂.world) ∧
          ∀ key, key? = some key →
            World.Begun key s'.world s₂.world ∧
            (s₂.world.active? id = s₁.world.active? id ∨ s₂.world.active? id = none) ∧
            ((∀ f ∈ s₁.calls, f.call.Spares id True (· ≠ key)) →
              (∀ step ∈ y.passed, step.All (Op.Spares id True (· ≠ key)) fun _ => True) →
              s₂.world.active? id = s₁.world.active? id) := by
  have hx := h.scope?_eq hs (World.session?_ne_none_of_scope? ho)
  rw [ho] at hx
  refine ⟨fun hn w hw query => Start.advance_of_nested (hw.trans hx) hn query, ?_⟩
  intro query body hooks hcalls hhooks r doings s₁ hp
  -- the start, while all else lets the session be
  obtain ⟨hcalls₁, hends, -⟩ := (Regime.begins_course id s'.world.bare).perform patience
    ((Regime.ofNesting_bears patience (fun _ => True) fun _ hne => hne).abides_hooked? hooks hhooks)
    patience.call (.ofQuery id query) .nothing hcalls ⟨rfl, ⟨_, hx, False.elim⟩, .refl _ _ _⟩
  rw [hp] at hcalls₁ hends
  dsimp only at hcalls₁ hends
  replace hcalls₁ : ∀ f ∈ s₁.calls, f.call.Spares id False fun _ => True := hcalls₁
  obtain ⟨⟨x₁, hx₁, -⟩, hr⟩ := hends r rfl
  replace hx₁ : s₁.world.scope? id = some x₁ := hx₁
  refine ⟨Start.achieves_bare.1 hr, ?_⟩
  rintro key? rfl y s₂ hy hpassed
  -- the body, in which the session is nested
  have within {ends : QueryKey → Prop} (hcalls : ∀ f ∈ s₁.calls, f.call.Spares id True ends)
      (hpassed : ∀ step ∈ y.passed, step.All (Op.Spares id True ends) fun _ => True) :
      s₁.world.bare.Steady id ends s₂.world.bare := by
    have hk : (Regime.ofNesting id True ends).Kept (s₁.mapWorld (·.update id Session.enter)) := by
      refine ⟨⟨_, (World.scope?_enter _ _ _).trans (by rw [hx₁]; rfl), fun _ => .inl ?_⟩, hcalls⟩
      simp
    have hl := (hy.kept (Regime.ofNesting_bears patience ends fun _ _ _ => trivial)
      (World.Steady.refl id ends) World.Steady.trans (fun h => h.2)
      (fun w other => .enter w id other ends) (fun w other => .setUtility w id other ends true)
      hpassed hk).2
    exact (World.Steady.enter _ id id ends).trans hl
  have hany := within (fun f hf => (hcalls₁ f hf).nest) hpassed
  refine ⟨?_, ?_⟩
  · rintro rfl
    exact World.steady_bare.1 (World.Steady.trans hr hany)
  · rintro key rfl
    obtain ⟨hid, hb, locked, ha⟩ := hr
    subst hid
    refine ⟨World.begun_bare.1 (hb.steady hany), hany.active.imp_right And.left,
      fun hcalls hpassed => ?_⟩
    rcases (within hcalls hpassed).active with hq | ⟨-, hq⟩
    · exact hq
    · exact absurd rfl (hq _ ha)

/-- A start within an execution, and another one within an execution in a utility command. The query
of the outermost execution is the active one all the time. -/
theorem nested_starts_of_utility :
    let patience : Patience := ⟨30, 30⟩
    let query : Query := ⟨"update", 1, [1], false, false⟩
    let start : Step := .op (.call (.start (.ofQuery 1 query))) none
    let nested : Step := .utility 1 [.execute 1 query [] .failure none] .value none
    let body : List Step := [start, nested]
    let steps : List Step := [.execute 1 query body .value none]
    let service := Service.ofSettings ⟨2, 4, 2, .ofNanos 30000⟩
    let host : MemoryHost := ⟨ViewIndex.empty.register 1 [10], .empty⟩
    let opened : Step := .op (.openSession .backend) none
    let s := (runStep patience opened (.ofWorld (.ofService service (.fresh host)))).2
    ∃ x s₂, Reaches patience 1 steps s x s₂ ∧ x.depth = 2 ∧
      Step.AllIn (· ≠ .closeSession 1) (fun _ => True) steps ∧ s.world.scope? 1 = some (0, false) ∧
      (Start.ofQuery 1 query).advance s₂.world = (s₂.world, .done (.ok none)) ∧
      World.Begun ⟨1, 1⟩ s.world s₂.world ∧ s₂.world.active? 1 = some ⟨⟨1, 1⟩, [10]⟩ := by
  intro patience query start nested body steps service host opened s
  let began (s : Stage) := s.perform patience [] patience.call (Start.ofQuery 1 query) .nothing
  let s₁ := (began s).2.2
  let within := (runStep patience start (s₁.mapWorld (·.update 1 Session.enter))).2.mapWorld
    (·.update 1 (·.setUtility true))
  let s₂ := (began within).2.2.mapWorld (·.update 1 Session.enter)
  have hs : s.world.scope? 1 = some (0, false) := by decide +kernel
  have hidle : s.calls = [] ∧ s₁.calls = [] := by decide +kernel
  have houter : (began s).1 = some (.ok (some ⟨1, 1⟩)) := by decide +kernel
  have hinner : (began within).1 = some (.ok none) := by decide +kernel
  have hactive : s₁.world.active? 1 = some ⟨⟨1, 1⟩, [10]⟩ := by decide +kernel
  have hguard : s₂.world.isGuarded 1 = false := by decide +kernel
  have hh : hooked? patience none = [] := by rw [hooked?]
  have goes (s : Stage) {key : Option QueryKey} (h : (began s).1 = some (.ok key)) :
      s.perform patience (hooked? patience none) patience.call (Start.ofQuery 1 query) .nothing
        = (some (.ok key), (began s).2.1, (began s).2.2) := by
    rw [hh, ← h]
  have hall : Step.AllIn (· ≠ .closeSession 1) (fun _ => True) steps := by
    simp [Step.AllIn, Step.All, Hook.AllIn?, steps, body, nested, start]
  let passed : List Step := [start, .execute 1 query [] .failure none]
  have hbody : Reaches patience 1 body (s₁.mapWorld (·.update 1 Session.enter))
      ⟨1, true, passed, []⟩ s₂ := .past (.utility (.execute (goes within hinner) .here))
  have hstart : s.perform patience (hooked? patience none) patience.call (Start.ofQuery 1 query)
      .nothing = (some (.ok (some ⟨1, 1⟩)), (began s).2.1, s₁) := goes s houter
  have hreach : Reaches patience 1 steps s
      ⟨2, true, .execute 1 query [] .value none :: passed, []⟩ s₂ := .execute hstart hbody
  have hpassed (ends : QueryKey → Prop) :
      ∀ step ∈ passed, step.All (Op.Spares 1 True ends) fun _ => True := by
    simp [passed, start, Step.AllIn, Step.All, Hook.AllIn?, Op.Spares, Call.Spares, Start.ofQuery,
      Start.queryKey?]
  clear_value s₁ within s₂ s
  obtain ⟨hnested, -⟩ := nested_starts hreach hall hs
  obtain ⟨-, htree⟩ := nested_starts .here hall hs
  obtain ⟨-, hpoints⟩ := htree query body none (by simp [hidle]) trivial _ _ _ hstart
  obtain ⟨-, hone⟩ := hpoints _ rfl _ _ hbody (hpassed _)
  obtain ⟨hbegun, -, hstays⟩ := hone _ rfl
  refine ⟨_, s₂, hreach, rfl, hall, hs, ?_, hbegun, ?_⟩
  · rw [hnested (.inr rfl) _ rfl query, hguard]
    rfl
  · exact (hstays (by simp [hidle]) (hpassed _)).trans hactive

end Scenario

end QueryAdmission
