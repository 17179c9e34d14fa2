import QueryAdmission.Proofs.Regime

/-!
# Steps that abide by a regime

A step is a tree: brackets have bodies, and every step may have hooks with steps of their own. If a
regime is kept by the operations in the tree and by the executions in it, and if the session goes
back to where it was when a bracket is left, then the regime is kept by the step, however deep the
tree is (`Regime.Bears.passes_runStep`).
-/

namespace QueryAdmission

/-! ### All that is in a step -/

mutual

/-- Every operation in the step is of one kind, and so is the session of every execution in it. -/
def Step.All (p : Op → Prop) (q : SessionId → Prop) : Step → Prop
  | .op op hooks => p op ∧ Hook.AllIn? p q hooks
  | .execute id _ body _ hooks => q id ∧ Step.AllIn p q body ∧ Hook.AllIn? p q hooks
  | .utility _ body _ hooks => Step.AllIn p q body ∧ Hook.AllIn? p q hooks

/-- The same for every step of a list. -/
def Step.AllIn (p : Op → Prop) (q : SessionId → Prop) : List Step → Prop
  | [] => True
  | step :: steps => step.All p q ∧ Step.AllIn p q steps

/-- The same for the steps of all hooks. -/
def Hook.AllIn (p : Op → Prop) (q : SessionId → Prop) : List Hook → Prop
  | [] => True
  | .mk _ _ steps :: hooks => Step.AllIn p q steps ∧ Hook.AllIn p q hooks

/-- The same for the hooks of a step. -/
def Hook.AllIn? (p : Op → Prop) (q : SessionId → Prop) : Option (List Hook) → Prop
  | none => True
  | some hooks => Hook.AllIn p q hooks

end

/-- What an operation does to the bare world, calls apart; after the abort by which a session is
closed, the session is forgotten. -/
def Op.effect (op : Op) (w : World MemoryHost) : World MemoryHost :=
  let setService (service : Service) : World MemoryHost := { w with service }
  let setLocks (locks : LockTable) : World MemoryHost := { w with host := { w.host with locks } }
  let setIndex (index : ViewIndex) : World MemoryHost := { w with host := { w.host with index } }
  match op with
  | .openSession kind => (w.openSession kind).2
  | .closeSession id => w.forget id
  | .raise signal => w.raise signal
  | .register key affected transaction => setService (w.service.register key affected transaction).2
  | .complete key => setService (w.service.complete key).2
  | .pass => setService w.service.pass.2
  | .giveUp key => setService (w.service.giveUp key)
  | .markRunning key => setService (w.service.markRunning key).2
  | .sweep id => setService (w.service.sweep id).2
  | .shutDown => setService w.service.shutDown
  | .lock id t => setLocks (w.host.locks.attempt id t).2
  | .unlock id t => setLocks (w.host.locks.unlock id t)
  | .view v tables => setIndex (w.host.index.register v tables)
  | .unview v => setIndex (w.host.index.remove v).2
  | .call _ | .spawn _ | .survey _ | .dependencies _ | .status _ | .held _ _ | .owner _
  | .locksHeld _ => w

/-- The call that an operation makes or begins. -/
def Op.call? : Op → Option Call
  | .call c | .spawn c => some c
  | .closeSession id => some (.abort (.ofSession id))
  | _ => none

namespace Scenario

variable (patience : Patience) (interruptions : List Interruption)

/-- An execution with any body, before it settles. -/
def executed (id : SessionId) (query : Query) (body : Stage → List Answer × Stage)
    (outcome : Outcome) (s : Stage) : StepResult × Doings × Stage :=
  match s.perform patience interruptions patience.call (Start.ofQuery id query) .nothing with
  | (none, doings, s) => (.stuck, doings, s)
  | (some (.error r), doings, s) => (.bracket none (.refused r), doings, s)
  | (some (.ok key), doings, s) =>
    let (answers, s) := body (s.mapWorld (·.update id Session.enter))
    let s := s.mapWorld (·.update id Session.leave)
    let result := .bracket (some answers) (.body outcome)
    match key with
    | none => (result, doings, s)
    | some key =>
      match s.perform patience interruptions patience.call (Finish.ofKey id key) doings with
      | (some (), doings, s) => (result, doings, s)
      | (none, doings, s) => (.stuck, doings, s)

lemma runStep_execute (id : SessionId) (query : Query) (body : List Step) (outcome : Outcome)
    (hooks : Option (List Hook)) (s : Stage) :
    runStep patience (.execute id query body outcome hooks) s
      = conclude patience hooks.isSome
        (executed patience (hooked? patience hooks) id query (runSteps patience body) outcome
          s) := by
  rw [runStep]
  rfl

end Scenario

namespace Regime

variable {R : Regime} {patience : Patience} {interruptions : List Interruption} {s : Stage}
  {w₀ : World MemoryHost}

/-! ### Calls that may be in the background as well -/

/-- A call of any kind goes on in the foreground as it does in the background. -/
lemma course_of_allows {γ ρ : Type} [Stepping γ ρ] (around : γ → Call)
    (reply : ρ → Except Refusal Reply)
    (h : ∀ (w : World MemoryHost) c,
      (around c).advance w = Call.embed around reply (Stepping.step w c)) :
    R.Course (fun _ (c : γ) w => R.allows (around c) ∧ R.holds w ∧ R.leads w₀ w)
      fun _ w => R.holds w ∧ R.leads w₀ w := by
  have own {c : γ} {w : World MemoryHost} (hc : R.allows (around c)) (hw : R.holds w)
      (hl : R.leads w₀ w) :
      (R.holds (Stepping.step w c).1 ∧ R.leads w₀ (Stepping.step w c).1) ∧
        ∀ c', (Stepping.step w c).2.call? = some c' → R.allows (around c') := by
    obtain ⟨hw', hl', hc'⟩ := R.advance hw hc
    rw [h] at hw' hl' hc'
    rcases hs : Stepping.step w c with ⟨w', c' | c' | r⟩ <;> rw [hs] at hw' hl' hc'
    · exact ⟨⟨hw', R.trans hl hl'⟩, by rintro _ ⟨⟩; exact hc' _ rfl⟩
    · exact ⟨⟨hw', R.trans hl hl'⟩, by rintro _ ⟨⟩; exact hc' _ rfl⟩
    · exact ⟨⟨hw', R.trans hl hl'⟩, by rintro _ ⟨⟩⟩
  constructor
  · rintro fuel c w ⟨hc, hw, hl⟩ -
    exact ⟨hw, fun hw' hl' => ⟨hc, hw', R.trans hl hl'⟩⟩
  · rintro fuel c c' w ⟨hc, hw, hl⟩ hp
    obtain ⟨⟨hw', hl'⟩, hc'⟩ := own hc hw hl
    exact ⟨hc' c' (by rw [hp]; rfl), hw', hl'⟩
  · rintro fuel c c' w ⟨hc, hw, hl⟩ hp
    obtain ⟨⟨hw', hl'⟩, hc'⟩ := own hc hw hl
    exact ⟨hw', fun hw'' hl'' => ⟨hc' c' (by rw [hp]; rfl), hw'', R.trans hl' hl''⟩⟩
  · rintro fuel c w r ⟨hc, hw, hl⟩ -
    exact (own hc hw hl).1

section Course

variable {γ ρ : Type} [Stepping γ ρ] {Q : Nat → γ → World MemoryHost → Prop}
  {E : ρ → World MemoryHost → Prop}

/-- If its invariant comes to that in the end, a call in the foreground keeps the regime. -/
lemma Course.passes [Oblivious γ] {c : γ} (h : R.Course Q E) (hi : R.Abides interruptions)
    (doings : Doings) (s : Stage) (hq : R.holds s.world.bare → Q patience.call c s.world.bare)
    (hstuck : ∀ c w, Q 0 c w → R.holds w ∧ R.leads s.world.bare w)
    (hdone : ∀ r w, E r w → R.holds w ∧ R.leads s.world.bare w) :
    R.Passes s (s.perform patience interruptions patience.call c doings).2.2 := by
  intro hk
  obtain ⟨hcalls, hends, hstops⟩ :=
    h.perform patience hi patience.call c doings hk.allows (hq hk.holds)
  have hw : R.holds (s.perform patience interruptions patience.call c doings).2.2.world.bare ∧
      R.leads s.world.bare
        (s.perform patience interruptions patience.call c doings).2.2.world.bare := by
    cases hr : (s.perform patience interruptions patience.call c doings).1 with
    | some r => exact hdone r _ (hends r hr)
    | none =>
      obtain ⟨c', hc'⟩ := hstops hr
      exact hstuck c' _ hc'
  exact ⟨⟨hw.1, hcalls⟩, hw.2⟩

/-- What holds of a call of one kind holds of it as a call of any kind. -/
lemma Course.embed {around : γ → Call} {reply : ρ → Except Refusal Reply} (h : R.Course Q E)
    (hs : ∀ (w : World MemoryHost) c,
      (around c).advance w = Call.embed around reply (Stepping.step w c))
    (hu : ∀ c, (around c).upcoming = Stepping.upcoming c) :
    R.Course (fun fuel (c : Call) w => ∃ c', c = around c' ∧ Q fuel c' w)
      fun r w => ∃ r', r = reply r' ∧ E r' w := by
  have own (w : World MemoryHost) (c : γ) :
      Stepping.step w (around c) = Call.embed around reply (Stepping.step w c) := hs w c
  constructor
  · rintro fuel _ w ⟨c, rfl, hq⟩ hc
    obtain ⟨hw, hq'⟩ := h.contact hq (by rwa [← hu])
    exact ⟨hw, fun hw' hl => ⟨c, rfl, hq' hw' hl⟩⟩
  · rintro fuel _ c' w ⟨c, rfl, hq⟩ hp
    rw [own] at hp ⊢
    rcases hx : Stepping.step w c with ⟨w', d | d | r⟩ <;> rw [hx] at hp <;> cases hp
    have hn := h.next hq (by rw [hx])
    rw [hx] at hn
    exact ⟨d, rfl, hn⟩
  · rintro fuel _ c' w ⟨c, rfl, hq⟩ hp
    rw [own] at hp ⊢
    rcases hx : Stepping.step w c with ⟨w', d | d | r⟩ <;> rw [hx] at hp <;> cases hp
    obtain ⟨hw, hn⟩ := h.sleep hq (by rw [hx])
    rw [hx] at hw hn
    exact ⟨hw, fun hw' hl => ⟨d, rfl, hn hw' hl⟩⟩
  · rintro fuel _ w r ⟨c, rfl, hq⟩ hp
    rw [own] at hp ⊢
    rcases hx : Stepping.step w c with ⟨w', d | d | r'⟩ <;> rw [hx] at hp <;> cases hp
    have hd := h.done hq (by rw [hx])
    rw [hx] at hd
    exact ⟨r', rfl, hd⟩

end Course

section Foreground

variable (patience : Patience) (hi : R.Abides interruptions) (doings : Doings) (s : Stage)

include hi

lemma passes_of_allows {γ ρ : Type} [Stepping γ ρ] [Oblivious γ] {around : γ → Call}
    {reply : ρ → Except Refusal Reply} {c : γ} (hc : R.allows (around c))
    (h : ∀ (w : World MemoryHost) c,
      (around c).advance w = Call.embed around reply (Stepping.step w c)) :
    R.Passes s (s.perform patience interruptions patience.call c doings).2.2 :=
  (course_of_allows around reply h).passes hi doings s (fun hw => ⟨hc, hw, R.refl _⟩)
    (fun _ _ hq => hq.2) fun _ _ hd => hd

lemma passes_call {c : Call} (hc : R.allows c) :
    R.Passes s (s.perform patience interruptions patience.call c doings).2.2 := by
  have h (w : World MemoryHost) (c : Call) :
      (id c).advance w = Call.embed id id (Stepping.step w c) := by
    show c.advance w = Call.embed id id (c.advance w)
    rcases c.advance w with ⟨w', c' | c' | r⟩ <;> rfl
  exact passes_of_allows patience hi doings s hc h

lemma passes_start {c : Start} (hc : R.allows (.start c)) :
    R.Passes s (s.perform patience interruptions patience.call c doings).2.2 :=
  passes_of_allows patience hi doings s hc fun _ _ => rfl

lemma passes_finish {c : Finish} (hc : R.allows (.finish c)) :
    R.Passes s (s.perform patience interruptions patience.call c doings).2.2 :=
  passes_of_allows patience hi doings s hc fun _ _ => rfl

lemma passes_abort {c : Abort} (hc : R.allows (.abort c)) :
    R.Passes s (s.perform patience interruptions patience.call c doings).2.2 :=
  passes_of_allows patience hi doings s hc fun _ _ => rfl

/-- Surveys change nothing. -/
lemma passes_survey (c : Survey) :
    R.Passes s (s.perform patience interruptions patience.call c doings).2.2 := by
  have step (w : World MemoryHost) (c : Survey) : (Stepping.step w c).1 = w := by
    rcases hl : c.left with _ | ⟨v, vs⟩ <;>
      simp [Stepping.step, Survey.ask, Catalogue.dependencies, hl]
  have course : R.Course (fun _ (_ : Survey) w => R.holds w ∧ R.leads s.world.bare w)
      fun _ w => R.holds w ∧ R.leads s.world.bare w := by
    constructor
    · rintro fuel c w ⟨hw, hl⟩ -
      exact ⟨hw, fun hw' hl' => ⟨hw', R.trans hl hl'⟩⟩
    · rintro fuel c c' w hq -
      rwa [step]
    · rintro fuel c c' w ⟨hw, hl⟩ -
      rw [step]
      exact ⟨hw, fun hw' hl' => ⟨hw', R.trans hl hl'⟩⟩
    · rintro fuel c w r hq -
      rwa [step]
  exact course.passes hi doings s (fun hw => ⟨hw, R.refl _⟩) (fun _ _ hq => hq) fun _ _ hd => hd

end Foreground

/-! ### Operations -/

/-- An operation that the regime abides, as far as calls and changes of the world go. -/
structure Welcomes (R : Regime) (op : Op) : Prop where
  allows : ∀ c ∈ op.call?, R.allows c
  effect : ∀ {w}, R.holds w → R.holds (op.effect w) ∧ R.leads w (op.effect w)

lemma Welcomes.passes_runOp {op : Op} (h : R.Welcomes op) (hi : R.Abides interruptions)
    (s : Stage) : R.Passes s (Scenario.runOp patience interruptions op s).2.2 := by
  have heff (s s' : Stage) (hc : s'.calls = s.calls)
      (hw : s'.world.bare = op.effect s.world.bare) : R.Passes s s' := by
    intro hk
    obtain ⟨hh, hl⟩ := h.effect hk.holds
    rw [← hw] at hh hl
    exact ⟨⟨hh, by rw [hc]; exact hk.allows⟩, hl⟩
  cases op with
  | closeSession id =>
    have hp := passes_abort patience hi .nothing s (h.allows _ rfl)
    rw [Scenario.runOp]
    generalize s.perform patience interruptions patience.call (Abort.ofSession id) .nothing = x
      at hp ⊢
    obtain ⟨_ | _, doings, s'⟩ := x
    · exact hp
    · exact hp.trans (heff s' _ rfl rfl)
  | call c =>
    have hp := passes_call patience hi .nothing s (h.allows c rfl)
    rw [Scenario.runOp]
    generalize s.perform patience interruptions patience.call c .nothing = x at hp ⊢
    obtain ⟨_ | _, doings, s'⟩ := x <;> exact hp
  | spawn c =>
    intro hk
    refine ⟨⟨hk.holds, fun f hf => ?_⟩, R.refl _⟩
    rcases List.mem_append.1 hf with hf | hf
    · exact hk.allows f (List.mem_append_left _ hf)
    · rcases List.mem_append.1 hf with hf | hf
      · exact hk.allows f (List.mem_append_right _ hf)
      · rw [List.mem_singleton.1 hf]
        exact h.allows c rfl
  | survey views =>
    have hp := passes_survey patience hi .nothing s (Survey.ofViews views)
    rw [Scenario.runOp]
    generalize s.perform patience interruptions patience.call (Survey.ofViews views) .nothing = x
      at hp ⊢
    obtain ⟨_ | _, doings, s'⟩ := x <;> exact hp
  | dependencies v => exact passes_interrupt hi (some (.dependencies v)) .nothing s
  | raise signal => cases signal <;> exact heff s _ rfl rfl
  | openSession | register | complete | pass | giveUp | markRunning | sweep | shutDown | lock
  | unlock | view | unview => exact heff s _ rfl rfl
  | status | held | owner | locksHeld => exact Passes.refl s

/-! ### Brackets -/

/-- When a bracket of the session is left, the session goes back to where it was, as far as the
regime goes. -/
structure Restores (R : Regime) (id : SessionId) : Prop where
  enter : ∀ {w}, R.holds w → R.holds (w.update id Session.enter)
  leave : ∀ {w w'}, R.holds w → R.holds w' → R.leads (w.update id Session.enter) w' →
    R.holds (w'.update id Session.leave) ∧ R.leads w (w'.update id Session.leave)
  openUtility : ∀ {w}, R.holds w → R.holds (w.update id (·.setUtility true))
  closeUtility : ∀ {w w'}, R.holds w → R.holds w' → R.leads (w.update id (·.setUtility true)) w' →
    R.holds (w'.update id (·.setUtility (w.inUtility id))) ∧
      R.leads w (w'.update id (·.setUtility (w.inUtility id)))

/-- What is done inside a bracket leads on from where the bracket was entered. -/
lemma passes_bracket {enter leave : World (Recorded MemoryHost) → World (Recorded MemoryHost)}
    {body : Stage → Stage} (hbody : ∀ s, R.Passes s (body s))
    (henter : R.holds s.world.bare → R.holds (enter s.world).bare)
    (hleave : ∀ w, R.holds s.world.bare → R.holds w.bare → R.leads (enter s.world).bare w.bare →
      R.holds (leave w).bare ∧ R.leads s.world.bare (leave w).bare) :
    R.Passes s ((body (s.mapWorld enter)).mapWorld leave) := by
  intro hk
  have hk₁ : R.Kept (s.mapWorld enter) := ⟨henter hk.holds, hk.allows⟩
  obtain ⟨hk₂, hl⟩ := hbody _ hk₁
  obtain ⟨hh, hl'⟩ := hleave _ hk.holds hk₂.holds hl
  exact ⟨⟨hh, hk₂.allows⟩, hl'⟩

/-- An execution keeps the regime if its start, its body and the end of its query do. -/
lemma Restores.passes_executed {id : SessionId} {query : Query} {body : Stage → List Answer × Stage}
    (h : R.Restores id) (outcome : Outcome) (s : Stage)
    (hstart : R.Passes s
      (s.perform patience interruptions patience.call (Start.ofQuery id query) .nothing).2.2)
    (hbody : ∀ s, R.Passes s (body s).2)
    (hfinish : ∀ key,
      (s.perform patience interruptions patience.call (Start.ofQuery id query) .nothing).1
        = some (.ok (some key)) → ∀ doings s', R.Passes s'
          (s'.perform patience interruptions patience.call (Finish.ofKey id key) doings).2.2) :
    R.Passes s (Scenario.executed patience interruptions id query body outcome s).2.2 := by
  have hbracket (s : Stage) : R.Passes s
      ((body (s.mapWorld (·.update id Session.enter))).2.mapWorld (·.update id Session.leave)) :=
    passes_bracket hbody h.enter fun _ => h.leave
  rw [Scenario.executed]
  generalize s.perform patience interruptions patience.call (Start.ofQuery id query) .nothing = x
    at hstart hfinish ⊢
  obtain ⟨_ | (r | _ | key), doings, s₁⟩ := x
  · exact hstart
  · exact hstart
  · exact hstart.trans (hbracket s₁)
  · refine hstart.trans ((hbracket s₁).trans ?_)
    have hend := hfinish key rfl doings
      ((body (s₁.mapWorld (·.update id Session.enter))).2.mapWorld (·.update id Session.leave))
    dsimp only at hend ⊢
    generalize Stage.perform patience interruptions patience.call (Finish.ofKey id key) doings _ = y
      at hend ⊢
    obtain ⟨_ | _, doings', s'⟩ := y <;> exact hend

/-! ### Whole steps -/

/-- A regime that steps of one kind keep: it is kept by operations and executions of that kind, and
all brackets go back to where they were entered. -/
structure Bears (R : Regime) (patience : Patience) (p : Op → Prop) (q : SessionId → Prop) :
    Prop where
  op : ∀ {op interruptions}, p op → R.Abides interruptions →
    ∀ s, R.Passes s (Scenario.runOp patience interruptions op s).2.2
  start : ∀ {id query interruptions}, q id → R.Abides interruptions → ∀ s, R.Passes s
    (s.perform patience interruptions patience.call (Start.ofQuery id query) .nothing).2.2
  execute : ∀ {id query interruptions body outcome}, q id → R.Abides interruptions →
    (∀ s, R.Passes s (body s).2) →
      ∀ s, R.Passes s (Scenario.executed patience interruptions id query body outcome s).2.2
  restores : ∀ id, R.Restores id

section Bears

variable {p : Op → Prop} {q : SessionId → Prop}

mutual

/-- A step of that kind keeps the regime, however deep it is. -/
lemma Bears.passes_runStep (h : R.Bears patience p q) (step : Step) (hs : step.All p q)
    (s : Stage) : R.Passes s (Scenario.runStep patience step s).2 := by
  match step with
  | .op op hooks =>
    rw [Step.All] at hs
    rw [Scenario.runStep]
    exact (h.op hs.1 (h.abides_hooked? hooks hs.2) s).trans (passes_conclude _ _)
  | .execute id query body outcome hooks =>
    rw [Step.All] at hs
    rw [Scenario.runStep_execute]
    refine Passes.trans (h.execute hs.1 (h.abides_hooked? hooks hs.2.2) ?_ s) (passes_conclude _ _)
    exact h.passes_runSteps body hs.2.1
  | .utility id body outcome hooks =>
    rw [Step.All] at hs
    rw [Scenario.runStep]
    refine Passes.trans ?_ (passes_conclude _ _)
    have hbracket : R.Passes s
        ((Scenario.runSteps patience body (s.mapWorld (·.update id (·.setUtility true)))).2.mapWorld
          (·.update id (·.setUtility (s.world.inUtility id)))) :=
      passes_bracket (h.passes_runSteps body hs.1) (h.restores id).openUtility
        fun _ => (h.restores id).closeUtility
    exact hbracket

lemma Bears.passes_runSteps (h : R.Bears patience p q) (steps : List Step)
    (hs : Step.AllIn p q steps) (s : Stage) :
    R.Passes s (Scenario.runSteps patience steps s).2 := by
  match steps with
  | [] =>
    rw [Scenario.runSteps]
    exact Passes.refl s
  | step :: steps =>
    rw [Step.AllIn] at hs
    rw [Scenario.runSteps]
    exact (h.passes_runStep step hs.1 s).trans (h.passes_runSteps steps hs.2 _)

lemma Bears.abides_hooked (h : R.Bears patience p q) (hooks : List Hook)
    (hs : Hook.AllIn p q hooks) : R.Abides (Scenario.hooked patience hooks) := by
  match hooks with
  | [] =>
    rw [Scenario.hooked]
    rintro i ⟨⟩
  | .mk site nth steps :: hooks =>
    rw [Hook.AllIn] at hs
    rw [Scenario.hooked]
    intro i hi
    rcases List.mem_cons.1 hi with rfl | hi
    · exact h.passes_runSteps steps hs.1
    · exact h.abides_hooked hooks hs.2 i hi

lemma Bears.abides_hooked? (h : R.Bears patience p q) (hooks : Option (List Hook))
    (hs : Hook.AllIn? p q hooks) : R.Abides (Scenario.hooked? patience hooks) := by
  match hooks with
  | none =>
    rw [Scenario.hooked?]
    rintro i ⟨⟩
  | some hooks =>
    rw [Hook.AllIn?] at hs
    rw [Scenario.hooked?]
    exact h.abides_hooked hooks hs

end

end Bears

end Regime

end QueryAdmission
