import QueryAdmission.Proofs.Sections
import QueryAdmission.Proofs.Steps

/-!
# Scopes of a session

How many executions are open in a session, and whether a utility command is, is its scope. No call
ever changes a scope (`Call.scope?_advance`), and neither does an operation; only brackets do, each
of them in its own way, and they undo it when they are left. So wherever a scenario comes to
(`Scenario.Reaches`), the scope tells exactly which brackets of the session are open around that
point, and every step that is taken there leaves the scope as it was (`Scenario.scopes_restored`):
brackets within brackets, whatever their bodies do and however these end, and with ends, aborts and
starts of the session in between.
-/

namespace QueryAdmission

/-! ### What changes no scope -/

namespace World

variable {σ : Type} {w w' : World σ} {id other : SessionId}

/-- How many executions are open in a session, and whether a utility command is. -/
def scope? (w : World σ) (id : SessionId) : Option (Nat × Bool) :=
  (w.session? id).map fun s => (s.nesting, s.inUtility)

lemma session?_ne_none_of_scope? {x : Nat × Bool} (h : w.scope? id = some x) :
    w.session? id ≠ none := by
  obtain ⟨s, hs, -⟩ := Option.map_eq_some_iff.1 h
  rw [hs]
  exact Option.some_ne_none s

lemma scope?_congr (h : w'.sessions = w.sessions) : w'.scope? id = w.scope? id := by
  rw [scope?, scope?, session?, session?, h]

lemma scope?_update (w : World σ) (id other : SessionId) {f : Session → Session}
    (hf : ∀ s, (f s).id = s.id) :
    (w.update other f).scope? id
      = if id = other then (w.session? id).map fun s => ((f s).nesting, (f s).inUtility)
        else w.scope? id := by
  rw [scope?, session?_update w other id f hf, Option.map_map]
  split_ifs with h
  · simp [h, Function.comp_def]
  · simp only [Function.comp_def, scope?]

/-- A change of a session in anything else leaves all scopes alone. -/
lemma scope?_update_of (w : World σ) (id other : SessionId) {f : Session → Session}
    (hf : ∀ s, (f s).id = s.id ∧ (f s).nesting = s.nesting ∧ (f s).inUtility = s.inUtility) :
    (w.update other f).scope? id = w.scope? id := by
  rw [scope?_update w id other fun s => (hf s).1]
  split_ifs
  · rw [scope?]
    congr
    funext s
    rw [(hf s).2.1, (hf s).2.2]
  · rfl

lemma scope?_enter (w : World σ) (id other : SessionId) :
    (w.update other Session.enter).scope? id
      = (w.scope? id).map fun x => (x.1 + if other = id then 1 else 0, x.2) := by
  rw [scope?_update w id other (f := Session.enter) fun _ => rfl]
  by_cases h : id = other
  · simp [h, scope?, Function.comp_def, Session.enter]
  · simp [h, Ne.symm h]

lemma scope?_leave (w : World σ) (id other : SessionId) :
    (w.update other Session.leave).scope? id
      = (w.scope? id).map fun x => (x.1 - if other = id then 1 else 0, x.2) := by
  rw [scope?_update w id other (f := Session.leave) fun _ => rfl]
  by_cases h : id = other
  · simp [h, scope?, Function.comp_def, Session.leave]
  · simp [h, Ne.symm h]

lemma scope?_setUtility (w : World σ) (id other : SessionId) (b : Bool) :
    (w.update other (·.setUtility b)).scope? id
      = (w.scope? id).map fun x => (x.1, if other = id then b else x.2) := by
  rw [scope?_update w id other (f := (·.setUtility b)) fun _ => rfl]
  by_cases h : id = other
  · simp [h, scope?, Function.comp_def, Session.setUtility]
  · simp [h, Ne.symm h]

lemma inUtility_eq (w : World σ) (id : SessionId) :
    w.inUtility id = ((w.scope? id).map (·.2)).getD false := by
  simp [inUtility, scope?, Function.comp_def]

end World

variable {w w' : World MemoryHost} {s s' : Session} {id : SessionId}

lemma Start.Move.scope?_eq {c : Start} {p : Progress Start (Except Refusal (Option QueryKey))}
    (h : c.Move w s w' s' p) : w'.scope? id = w.scope? id := by
  cases h with
  | barred | ignored | returned | finished | asked | registered | refused | unlocked => rfl
  | admission _ hm => cases hm <;> rfl
  | entered | approved | denied | installed | failed =>
    exact w.scope?_update_of id c.session fun _ => ⟨rfl, rfl, rfl⟩

lemma Finish.Move.scope?_eq {c : Finish} {p : Progress Finish Unit} (h : c.Move w s w' s' p) :
    w'.scope? id = w.scope? id := by
  cases h with
  | barred | idle | returned | completed => rfl
  | took => exact w.scope?_update_of id c.session fun _ => ⟨rfl, rfl, rfl⟩

lemma Abort.Move.scope?_eq {c : Abort} {p : Progress Abort Unit} (h : c.Move w s w' s' p) :
    w'.scope? id = w.scope? id := by
  cases h with
  | barred | returned => rfl
  | took | swept => exact World.scope?_update_of _ id c.session fun _ => ⟨rfl, rfl, rfl⟩

lemma Wait.sessions_advance (w : World MemoryHost) (c : Wait) :
    (c.advance w).1.sessions = w.sessions := by
  rcases hp : c.phase with _ | _ | why
  · rcases hl : w.service.look c.key with ⟨_ | _ | _, service⟩ <;> simp [advance, hp, hl]
  · rcases hd : c.departure? w with _ | why <;> simp [advance, hp, hd]
  · simp [advance, hp]

lemma Admission.sessions_advance (w : World MemoryHost) (a : Admission) :
    (a.advance w).1.sessions = w.sessions := by
  have h := a.move_advance w
  generalize a.advance w = x at h ⊢
  obtain ⟨w', p⟩ := x
  cases h <;> rfl

lemma Call.fst_embed {γ ρ : Type} (around : γ → Call) (reply : ρ → Except Refusal Reply)
    (x : World MemoryHost × Progress γ ρ) : (embed around reply x).1 = x.1 := by
  rcases x with ⟨w, c | c | r⟩ <;> rfl

lemma Call.call?_embed {γ ρ : Type} (around : γ → Call) (reply : ρ → Except Refusal Reply)
    (x : World MemoryHost × Progress γ ρ) :
    (embed around reply x).2.call? = x.2.call?.map around := by
  rcases x with ⟨w, c | c | r⟩ <;> rfl

/-- No call changes a scope. -/
lemma Call.scope?_advance (w : World MemoryHost) (c : Call) (id : SessionId) :
    (c.advance w).1.scope? id = w.scope? id := by
  cases c with
  | start c =>
    rw [advance, fst_embed]
    rcases c.exists_move w with h | ⟨s, s', -, h⟩
    · rw [h]
    · exact h.scope?_eq
  | finish c =>
    rw [advance, fst_embed]
    rcases c.exists_move w with h | ⟨s, s', -, h⟩
    · rw [h]
    · exact h.scope?_eq
  | abort c =>
    rw [advance, fst_embed]
    rcases c.exists_move w with h | ⟨s, s', -, h⟩
    · rw [h]
    · exact h.scope?_eq
  | wait c =>
    rw [advance, fst_embed]
    exact World.scope?_congr (c.sessions_advance w)
  | admission a =>
    rw [advance, fst_embed]
    exact World.scope?_congr (a.sessions_advance w)

/-- An operation leaves a session that is open as it is, unless it closes it. -/
lemma Op.session?_effect {op : Op} (hs : w.session? id ≠ none) (ho : op ≠ .closeSession id) :
    (op.effect w).session? id = w.session? id := by
  cases op with
  | openSession kind =>
    obtain ⟨s, hs⟩ := Option.ne_none_iff_exists'.1 hs
    show (w.sessions ++ [_]).find? _ = _
    rw [List.find?_append, show w.sessions.find? _ = some s from hs, hs]
    rfl
  | closeSession other =>
    have hne : id ≠ other := by
      rintro rfl
      exact ho rfl
    show (w.forget other).session? id = _
    rw [World.session?_forget, if_neg hne]
  | raise signal => cases signal <;> rfl
  | register | complete | pass | giveUp | markRunning | sweep | shutDown | lock | unlock | view
  | unview | call | spawn | survey | dependencies | status | held | owner | locksHeld => rfl

/-! ### Steps and scopes -/

/-- The session is open, and its scope stays the same. -/
def Regime.ofScope (id : SessionId) : Regime where
  holds w := w.session? id ≠ none
  leads w w' := w'.scope? id = w.scope? id
  allows _ := True
  refl _ := rfl
  trans h h' := h'.trans h
  advance {w c} hw _ := by
    have h := c.scope?_advance w id
    refine ⟨?_, h, fun _ _ => trivial⟩
    rw [World.scope?, World.scope?] at h
    rwa [ne_eq, ← Option.map_eq_none_iff, h, Option.map_eq_none_iff]

namespace Regime

lemma ofScope_holds_iff : (ofScope id).holds w ↔ w.scope? id ≠ none := by
  show w.session? id ≠ none ↔ _
  rw [World.scope?, ne_eq, ne_eq, Option.map_eq_none_iff]

/-- Whatever is opened in a bracket is closed again when the bracket is left. -/
lemma ofScope_restores (id other : SessionId) : (ofScope id).Restores other where
  enter h := by
    rw [ofScope_holds_iff] at h ⊢
    rwa [World.scope?_enter, ne_eq, Option.map_eq_none_iff]
  leave {w w'} _ h' hl := by
    rw [ofScope_holds_iff] at h' ⊢
    have hl : w'.scope? id = _ := hl
    rw [World.scope?_enter] at hl
    refine ⟨by rwa [World.scope?_leave, ne_eq, Option.map_eq_none_iff], ?_⟩
    show World.scope? _ id = w.scope? id
    rw [World.scope?_leave, hl]
    cases w.scope? id <;> simp
  openUtility h := by
    rw [ofScope_holds_iff] at h ⊢
    rwa [World.scope?_setUtility, ne_eq, Option.map_eq_none_iff]
  closeUtility {w w'} _ h' hl := by
    rw [ofScope_holds_iff] at h' ⊢
    have hl : w'.scope? id = _ := hl
    rw [World.scope?_setUtility] at hl
    refine ⟨by rwa [World.scope?_setUtility, ne_eq, Option.map_eq_none_iff], ?_⟩
    show World.scope? _ id = w.scope? id
    rw [World.scope?_setUtility, hl]
    by_cases ho : other = id
    · subst ho
      rw [World.inUtility_eq]
      cases w.scope? other <;> simp
    · cases w.scope? id <;> simp [ho]

/-- Whatever is in a step, the scope is the same afterwards, unless the session is closed. -/
lemma ofScope_bears (patience : Patience) (id : SessionId) :
    (ofScope id).Bears patience (· ≠ .closeSession id) fun _ => True where
  op {op interruptions} ho hi s := by
    refine Welcomes.passes_runOp ⟨fun _ _ => trivial, fun {w} hw => ?_⟩ hi s
    have h := Op.session?_effect hw ho
    refine ⟨?_, ?_⟩
    · show World.session? _ id ≠ none
      rwa [h]
    · show World.scope? _ id = w.scope? id
      rw [World.scope?, h, World.scope?]
  start _ hi s := passes_start patience hi .nothing s trivial
  execute {other query interruptions body outcome} _ hi hbody s :=
    (ofScope_restores id other).passes_executed outcome s
      (passes_start patience hi .nothing s trivial) hbody
      fun key _ doings s' => passes_finish patience hi doings s' trivial
  restores := ofScope_restores id

end Regime

namespace Scenario

/-! ### Points that a scenario comes to -/

/-- A point among steps, within the bodies of brackets. -/
structure Point where
  /-- How many executions of the session are open around the point. -/
  depth : Nat
  /-- Whether a utility command of the session is open around the point. -/
  inUtility : Bool
  /-- The steps that were taken so far, and the executions that were gone into, without their
  bodies. -/
  passed : List Step
  /-- The steps that are left in the innermost body. -/
  left : List Step

/-- Where steps come to that are taken one after the other: to their beginning, beyond the first of
them, or into the body of the first if it is a bracket. -/
inductive Reaches (patience : Patience) (id : SessionId) :
    List Step → Stage → Point → Stage → Prop
  | here {steps : List Step} {s : Stage} : Reaches patience id steps s ⟨0, false, [], steps⟩ s
  | past {step : Step} {steps : List Step} {s s' : Stage} {x : Point}
      (h : Reaches patience id steps (runStep patience step s).2 x s') :
      Reaches patience id (step :: steps) s { x with passed := step :: x.passed } s'
  | execute {other : SessionId} {query : Query} {body steps : List Step} {outcome : Outcome}
      {hooks : Option (List Hook)} {key : Option QueryKey} {doings : Doings} {s s₁ s' : Stage}
      {x : Point}
      (hp : s.perform patience (hooked? patience hooks) patience.call (Start.ofQuery other query)
        .nothing = (some (.ok key), doings, s₁))
      (h : Reaches patience id body (s₁.mapWorld (·.update other Session.enter)) x s') :
      Reaches patience id (.execute other query body outcome hooks :: steps) s
        { x with
          depth := (if other = id then 1 else 0) + x.depth
          passed := .execute other query [] outcome hooks :: x.passed } s'
  | utility {other : SessionId} {body steps : List Step} {outcome : Outcome}
      {hooks : Option (List Hook)} {s s' : Stage} {x : Point}
      (h : Reaches patience id body (s.mapWorld (·.update other (·.setUtility true))) x s') :
      Reaches patience id (.utility other body outcome hooks :: steps) s
        { x with inUtility := decide (other = id) || x.inUtility } s'

variable {patience : Patience} {steps : List Step} {s s' : Stage} {x : Point}

/-- What is on the way to a point, and what is left there, is of the kind of which all steps are. -/
lemma Reaches.all (h : Reaches patience id steps s x s') {p : Op → Prop} {q : SessionId → Prop}
    (hs : Step.AllIn p q steps) : (∀ step ∈ x.passed, step.All p q) ∧ Step.AllIn p q x.left := by
  induction h with
  | here => exact ⟨by simp, hs⟩
  | past h ih =>
    rw [Step.AllIn] at hs
    obtain ⟨hp, hl⟩ := ih hs.2
    exact ⟨by simpa using ⟨hs.1, hp⟩, hl⟩
  | execute hp h ih =>
    rw [Step.AllIn, Step.All] at hs
    obtain ⟨hp, hl⟩ := ih hs.1.2.1
    refine ⟨?_, hl⟩
    rw [List.forall_mem_cons, Step.All, Step.AllIn]
    exact ⟨⟨hs.1.1, trivial, hs.1.2.2⟩, hp⟩
  | utility h ih =>
    rw [Step.AllIn, Step.All] at hs
    exact ih hs.1.1

/-- A regime that is kept by what is on the way to a point is kept at that point. -/
lemma Reaches.kept {R : Regime} {p : Op → Prop} {q : SessionId → Prop} (hb : R.Bears patience p q)
    {leads : World MemoryHost → World MemoryHost → Prop} (refl : ∀ w, leads w w)
    (trans : ∀ {w₁ w₂ w₃}, leads w₁ w₂ → leads w₂ w₃ → leads w₁ w₃)
    (le : ∀ {w w'}, R.leads w w' → leads w w')
    (enter : ∀ w other, leads w (w.update other Session.enter))
    (openUtility : ∀ w other, leads w (w.update other (·.setUtility true)))
    (h : Reaches patience id steps s x s') (hs : ∀ step ∈ x.passed, step.All p q) (hk : R.Kept s) :
    R.Kept s' ∧ leads s.world.bare s'.world.bare := by
  induction h with
  | here => exact ⟨hk, refl _⟩
  | past h ih =>
    rw [List.forall_mem_cons] at hs
    obtain ⟨hk₁, hl₁⟩ := hb.passes_runStep _ hs.1 _ hk
    obtain ⟨hk', hl'⟩ := ih hs.2 hk₁
    exact ⟨hk', trans (le hl₁) hl'⟩
  | @execute other _ _ _ _ _ _ _ s s₁ _ _ hp h ih =>
    rw [List.forall_mem_cons, Step.All] at hs
    obtain ⟨⟨hq, -, hhooks⟩, hs⟩ := hs
    obtain ⟨hk₁, hl₁⟩ := hb.start hq (hb.abides_hooked? _ hhooks) s hk
    rw [hp] at hk₁ hl₁
    obtain ⟨hk', hl'⟩ := ih hs ⟨(hb.restores other).enter hk₁.holds, hk₁.allows⟩
    exact ⟨hk', trans (le hl₁) (trans (enter s₁.world.bare other) hl')⟩
  | @utility other _ _ _ _ s _ _ h ih =>
    obtain ⟨hk', hl'⟩ := ih hs ⟨(hb.restores other).openUtility hk.holds, hk.allows⟩
    exact ⟨hk', trans (openUtility s.world.bare other) hl'⟩

/-- At every point, the scope tells which brackets are open around it. -/
lemma Reaches.scope?_eq (h : Reaches patience id steps s x s')
    (hs : Step.AllIn (· ≠ .closeSession id) (fun _ => True) steps)
    (ho : s.world.session? id ≠ none) :
    s'.world.scope? id
      = (s.world.scope? id).map fun y => (y.1 + x.depth, y.2 || x.inUtility) := by
  have hb := Regime.ofScope_bears patience id
  have hall (s : Stage) (ho : s.world.session? id ≠ none) : (Regime.ofScope id).Kept s :=
    ⟨ho, fun _ _ => trivial⟩
  induction h with
  | here => simp
  | past h ih =>
    rw [Step.AllIn] at hs
    obtain ⟨hk, hl⟩ := hb.passes_runStep _ hs.1 _ (hall _ ho)
    rw [ih hs.2 hk.holds]
    exact congrArg _ hl
  | @execute other _ _ _ _ _ _ _ s s₁ _ x hp h ih =>
    rw [Step.AllIn, Step.All] at hs
    obtain ⟨⟨-, hbody, hhooks⟩, -⟩ := hs
    obtain ⟨hk, hl⟩ :=
      Regime.passes_start patience (hb.abides_hooked? _ hhooks) .nothing s trivial (hall _ ho)
    rw [hp] at hk hl
    have hl : s₁.world.scope? id = s.world.scope? id := hl
    rw [ih hbody ((hb.restores other).enter hk.holds)]
    show Option.map _ ((s₁.world.update other Session.enter).scope? id) = _
    rw [World.scope?_enter, hl, Option.map_map]
    cases s.world.scope? id <;> simp [Nat.add_assoc]
  | @utility other _ _ _ _ s _ x h ih =>
    rw [Step.AllIn, Step.All] at hs
    rw [ih hs.1.1 ((hb.restores other).openUtility (hall s ho).holds)]
    show Option.map _ ((s.world.update other (·.setUtility true)).scope? id) = _
    rw [World.scope?_setUtility, Option.map_map]
    cases s.world.scope? id <;> by_cases ho : other = id <;> simp [ho]

/-- Wherever a scenario comes to within brackets, the session's nesting level has gone up by the
number of its executions that are open around that point, and a utility command is open in it if one
was open before or is open around that point. Every step that is taken there leaves both as they
were, brackets with all that is in them included: whether it succeeds, fails, unwinds or is refused,
and whatever is started, ended or aborted in it. The one thing that is not done in between is to
close the session. -/
theorem scopes_restored (h : Reaches patience id steps s x s')
    (hs : Step.AllIn (· ≠ .closeSession id) (fun _ => True) steps) {n : Nat} {u : Bool}
    (ho : s.world.scope? id = some (n, u)) :
    s'.world.scope? id = some (n + x.depth, u || x.inUtility) ∧
      ∀ step rest, x.left = step :: rest →
        (runStep patience step s').2.world.scope? id = s'.world.scope? id := by
  have hopen (s : Stage) {y : Nat × Bool} (hy : s.world.scope? id = some y) :
      (Regime.ofScope id).Kept s := by
    refine ⟨Regime.ofScope_holds_iff.2 ?_, fun _ _ => trivial⟩
    rw [show s.world.bare.scope? id = _ from hy]
    exact Option.some_ne_none y
  have hat : s'.world.scope? id = some (n + x.depth, u || x.inUtility) := by
    rw [h.scope?_eq hs (hopen s ho).holds, ho]
    rfl
  refine ⟨hat, fun step rest hl => ?_⟩
  have hall := (h.all hs).2
  rw [hl, Step.AllIn] at hall
  exact ((Regime.ofScope_bears patience id).passes_runStep step hall.1 s' (hopen s' hat)).2

/-- An execution within a utility command within an execution, where the transaction was aborted.
Two executions and the command are open then, and so they are after another execution, in which the
transaction is aborted once more and whose body unwinds. -/
theorem scopes_restored_of_panic :
    let patience : Patience := ⟨30, 30⟩
    let query : Query := ⟨"update", 1, [1], false, false⟩
    let abort : Step := .op (.call (.abort (.ofSession 1))) none
    let inner : Step := .execute 1 query [abort] .panic none
    let nested : Step := .utility 1 [.execute 1 query [abort, inner] .failure none] .value none
    let steps : List Step := [.execute 1 query [nested] .value none]
    let service := Service.ofSettings ⟨2, 4, 2, .ofNanos 30000⟩
    let host : MemoryHost := ⟨ViewIndex.empty.register 1 [10], .empty⟩
    let opened : Step := .op (.openSession .backend) none
    let s := (runStep patience opened (.ofWorld (.ofService service (.fresh host)))).2
    ∃ x s', Reaches patience 1 steps s x s' ∧
      Step.AllIn (· ≠ .closeSession 1) (fun _ => True) steps ∧ s.world.scope? 1 = some (0, false) ∧
      x.left = [inner] ∧ s'.world.scope? 1 = some (2, true) ∧
      (runStep patience inner s').2.world.scope? 1 = some (2, true) := by
  intro patience query abort inner nested steps service host opened s
  let start (s : Stage) := s.perform patience [] patience.call (Start.ofQuery 1 query) .nothing
  let enter (s : Stage) := (start s).2.2.mapWorld (·.update 1 Session.enter)
  let within := (enter s).mapWorld (·.update 1 (·.setUtility true))
  have hs : s.world.scope? 1 = some (0, false) := by decide +kernel
  have houter : (start s).1 = some (.ok (some ⟨1, 1⟩)) := by decide +kernel
  have hinner : (start within).1 = some (.ok none) := by decide +kernel
  have hh : hooked? patience none = [] := by rw [hooked?]
  have goes (s : Stage) {key : Option QueryKey} (h : (start s).1 = some (.ok key)) :
      s.perform patience (hooked? patience none) patience.call (Start.ofQuery 1 query) .nothing
        = (some (.ok key), (start s).2.1, (start s).2.2) := by
    rw [hh, ← h]
  have hall : Step.AllIn (· ≠ .closeSession 1) (fun _ => True) steps := by
    simp [Step.AllIn, Step.All, Hook.AllIn?, steps, nested, inner, abort]
  have hreach : Reaches patience 1 steps s _ (runStep patience abort (enter within)).2 :=
    .execute (goes s houter) (.utility (.execute (goes within hinner) (.past .here)))
  clear_value s
  obtain ⟨hat, hleft⟩ := scopes_restored hreach hall hs
  exact ⟨_, _, hreach, hall, hs, rfl, hat, (hleft inner [] rfl).trans hat⟩

end Scenario

end QueryAdmission
