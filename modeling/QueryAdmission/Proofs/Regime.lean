import QueryAdmission.Proofs.Passage
import QueryAdmission.Proofs.Recording
import QueryAdmission.Scenario

/-!
# What a stage abides by

Many steps of a scenario let others in: calls in the background take their turns, and hooks run
steps of their own before the contacts of a call. A regime says what holds of every world, how a
later world comes from an earlier one, and what calls there may be in the background; the sections
of these calls keep it (`Regime`). Then turns keep it (`Regime.passes_turn`), and so does whatever
else comes between the sections of a call in the foreground, on which the rule for such a call rests
(`Regime.Course.perform`).
-/

namespace QueryAdmission

/-- What holds of worlds, how later worlds come from earlier ones, and what calls there may be in
the background. -/
structure Regime where
  holds : World MemoryHost → Prop
  leads : World MemoryHost → World MemoryHost → Prop
  allows : Call → Prop
  refl : ∀ w, leads w w
  trans : ∀ {w₁ w₂ w₃}, leads w₁ w₂ → leads w₂ w₃ → leads w₁ w₃
  advance : ∀ {w c}, holds w → allows c →
    holds (c.advance w).1 ∧ leads w (c.advance w).1 ∧ ∀ c' ∈ (c.advance w).2.call?, allows c'

/-- A section of a call in the foreground does what it does to the bare world. -/
lemma Stage.exists_advance {γ ρ : Type} [Stepping γ ρ] [Oblivious γ] (c : γ) (doings : Doings)
    (s : Stage) :
    ∃ doings' w,
      s.advance c doings = ((Stepping.step s.world.bare c).2, doings', { s with world := w }) ∧
      w.bare = (Stepping.step s.world.bare c).1 := by
  have hb : Stepping.step s.world.bare c = _ :=
    Oblivious.step_bare { s.world with host := { s.world.host with contacts := [] } } c
  rw [hb]
  exact ⟨_, _, rfl, rfl⟩

namespace Regime

variable (R : Regime) {patience : Patience} {s s' s'' : Stage}

/-- A stage on which the regime is kept. -/
structure Kept (s : Stage) : Prop where
  holds : R.holds s.world.bare
  allows : ∀ f ∈ s.calls, R.allows f.call

/-- If the regime is kept at first, it is kept afterwards, and the later world comes from the first.
-/
def Passes (s s' : Stage) : Prop := R.Kept s → R.Kept s' ∧ R.leads s.world.bare s'.world.bare

variable {R}

lemma Passes.refl (s : Stage) : R.Passes s s := fun h => ⟨h, R.refl s.world.bare⟩

lemma Passes.trans (h : R.Passes s s') (h' : R.Passes s' s'') : R.Passes s s'' := by
  intro hk
  obtain ⟨hk', hl⟩ := h hk
  obtain ⟨hk'', hl'⟩ := h' hk'
  exact ⟨hk'', R.trans hl hl'⟩

/-! ### Calls in the background -/

/-- A call that runs until it is over or sleeps keeps the regime. -/
lemma runUntilAsleep_kept (fuel : Nat) {w : World (Recorded MemoryHost)} {c : Call}
    (hw : R.holds w.bare) (hc : R.allows c) :
    R.holds (runUntilAsleep fuel w c).1.bare ∧ R.leads w.bare (runUntilAsleep fuel w c).1.bare ∧
      ∀ c', (runUntilAsleep fuel w c).2 = .inl c' → R.allows c' := by
  induction fuel generalizing w c with
  | zero => exact ⟨hw, R.refl _, by rintro c' ⟨⟩; exact hc⟩
  | succ fuel ih =>
    obtain ⟨hw', hl, hc'⟩ := R.advance hw hc
    rw [c.advance_bare] at hw' hl hc'
    rw [runUntilAsleep]
    rcases ha : c.advance w with ⟨w', c' | c' | r⟩
    · rw [ha] at hw' hl hc'
      rw [show Stepping.step w c = _ from ha]
      obtain ⟨hw'', hl', hc''⟩ := ih hw' (hc' c' rfl)
      exact ⟨hw'', R.trans hl hl', hc''⟩
    · rw [ha] at hw' hl hc'
      rw [show Stepping.step w c = _ from ha]
      exact ⟨hw', hl, by rintro _ ⟨⟩; exact hc' c' rfl⟩
    · rw [ha] at hw' hl
      rw [show Stepping.step w c = _ from ha]
      exact ⟨hw', hl, by rintro _ ⟨⟩⟩

lemma runRound_kept (fuel : Nat) (fs : List InFlight) {w : World (Recorded MemoryHost)}
    (hw : R.holds w.bare) (hfs : ∀ f ∈ fs, R.allows f.call) :
    R.holds (runRound fuel w fs).1.bare ∧ R.leads w.bare (runRound fuel w fs).1.bare ∧
      ∀ f ∈ (runRound fuel w fs).2.1, R.allows f.call := by
  induction fs generalizing w with
  | nil => exact ⟨hw, R.refl _, by simp [runRound]⟩
  | cons f fs ih =>
    obtain ⟨hw', hl, hc⟩ := runUntilAsleep_kept fuel hw (hfs f List.mem_cons_self)
    rw [runRound]
    rcases hr : runUntilAsleep fuel w f.call with ⟨w', c' | r⟩
    · rw [hr] at hw' hl hc
      obtain ⟨hw'', hl', hfs'⟩ := ih hw' fun g hg => hfs g (List.mem_cons_of_mem f hg)
      refine ⟨hw'', R.trans hl hl', fun g hg => ?_⟩
      rcases List.mem_cons.1 hg with rfl | hg
      · exact hc c' rfl
      · exact hfs' g hg
    · rw [hr] at hw' hl
      obtain ⟨hw'', hl', hfs'⟩ := ih hw' fun g hg => hfs g (List.mem_cons_of_mem f hg)
      exact ⟨hw'', R.trans hl hl', hfs'⟩

lemma passes_turn (patience : Patience) (s : Stage) : R.Passes s (s.turn patience) := by
  intro hk
  obtain ⟨hw, hl, hbegun⟩ := runRound_kept patience.turn s.fresh hk.holds fun f hf =>
    hk.allows f (List.mem_append_right _ hf)
  obtain ⟨hw', hl', hflying⟩ := runRound_kept patience.turn s.flying hw fun f hf =>
    hk.allows f (List.mem_append_left _ hf)
  refine ⟨⟨hw', fun f hf => ?_⟩, R.trans hl hl'⟩
  rw [Stage.calls] at hf
  rcases List.mem_append.1 hf with hf | hf
  · rcases List.mem_append.1 hf with hf | hf
    · exact hflying f hf
    · exact hbegun f hf
  · cases hf

lemma passes_settle (s : Stage) : R.Passes s (s.settle patience) := by
  have within (n : Nat) (s : Stage) : R.Passes s (s.settleWithin patience n) := by
    induction n generalizing s with
    | zero => exact Passes.refl s
    | succ n ih =>
      rw [Stage.settleWithin]
      split
      · exact Passes.refl s
      · exact (passes_turn patience s).trans (ih _)
  exact within _ s

/-- A step that is over settles. -/
lemma passes_conclude (hasHooks : Bool) (x : StepResult × Doings × Stage) :
    R.Passes x.2.2 (Scenario.conclude patience hasHooks x).2 := by
  intro hk
  obtain ⟨hk', hl⟩ := passes_settle x.2.2 hk
  exact ⟨⟨hk'.holds, hk'.allows⟩, hl⟩

/-! ### Calls in the foreground -/

variable {interruptions : List Interruption}

/-- What is hooked into a call keeps the regime. -/
def Abides (R : Regime) (interruptions : List Interruption) : Prop :=
  ∀ i ∈ interruptions, ∀ s, R.Passes s (i.run s).2

lemma passes_interrupt (hi : R.Abides interruptions) (site : Option Site) (doings : Doings)
    (s : Stage) : R.Passes s (s.interrupt interruptions site doings).2 := by
  cases site with
  | none => exact Passes.refl s
  | some site =>
    rw [Stage.interrupt]
    have hfilter : R.Abides (interruptions.filter fun i =>
        i.site = site && i.nth = (doings.visit site).visitsTo site) :=
      fun i hmem => hi i (List.mem_of_mem_filter hmem)
    generalize interruptions.filter _ = is at hfilter
    show R.Passes s (is.foldl _ (doings.visit site, s)).2
    generalize doings.visit site = d
    induction is generalizing d s with
    | nil => exact Passes.refl s
    | cons i is ih =>
      rw [List.foldl_cons]
      refine (hfilter i List.mem_cons_self s).trans ?_
      exact ih _ (fun j hj => hfilter j (List.mem_cons_of_mem i hj)) _

variable {γ ρ : Type} [Stepping γ ρ]

/-- A call in the foreground with an invariant of its own, for each number of sections that are left
to it. The call keeps the invariant by its own sections, and so do others while it does not have the
stage for itself: before a contact, and while it sleeps. -/
structure Course (R : Regime) (Q : Nat → γ → World MemoryHost → Prop)
    (E : ρ → World MemoryHost → Prop) : Prop where
  contact : ∀ {fuel c w}, Q (fuel + 1) c w → (Stepping.upcoming c).isSome →
    R.holds w ∧ ∀ {w'}, R.holds w' → R.leads w w' → Q (fuel + 1) c w'
  next : ∀ {fuel c c' w}, Q (fuel + 1) c w → (Stepping.step w c).2 = .next c' →
    Q fuel c' (Stepping.step w c).1
  sleep : ∀ {fuel c c' w}, Q (fuel + 1) c w → (Stepping.step w c).2 = .sleep c' →
    R.holds (Stepping.step w c).1 ∧
      ∀ {w'}, R.holds w' → R.leads (Stepping.step w c).1 w' → Q fuel c' w'
  done : ∀ {fuel c w r}, Q (fuel + 1) c w → (Stepping.step w c).2 = .done r →
    E r (Stepping.step w c).1

variable {Q : Nat → γ → World MemoryHost → Prop} {E : ρ → World MemoryHost → Prop}
  {fuel : Nat} {c : γ}

/-- Where a section leads that does not put the call to sleep. -/
def Proceeds (Q : γ → World MemoryHost → Prop) (E : ρ → World MemoryHost → Prop) :
    World MemoryHost × Progress γ ρ → Prop
  | (w, .next c) => Q c w
  | (_, .sleep _) => False
  | (w, .done r) => E r w

/-- A call that is carried out in one go, without a contact and without a sleep. -/
lemma Course.of_proceeds (hu : ∀ c : γ, Stepping.upcoming c = none)
    (h : ∀ {fuel c w}, Q (fuel + 1) c w → Proceeds (Q fuel) E (Stepping.step w c)) :
    R.Course Q E := by
  have own {fuel : Nat} {c : γ} {w : World MemoryHost} {p : Progress γ ρ} (hq : Q (fuel + 1) c w)
      (hp : (Stepping.step w c).2 = p) : Proceeds (Q fuel) E ((Stepping.step w c).1, p) := by
    rw [← hp]
    exact h hq
  constructor
  · rintro fuel c w - hc
    rw [hu] at hc
    cases hc
  · exact fun hq hp => own hq hp
  · exact fun hq hp => (own hq hp).elim
  · exact fun hq hp => own hq hp

lemma Course.interrupt (h : R.Course Q E) (hi : R.Abides interruptions) (doings : Doings) {s : Stage}
    (hs : ∀ f ∈ s.calls, R.allows f.call) (hq : Q (fuel + 1) c s.world.bare) :
    (∀ f ∈ (s.interrupt interruptions (Stepping.upcoming c) doings).2.calls, R.allows f.call) ∧
      Q (fuel + 1) c (s.interrupt interruptions (Stepping.upcoming c) doings).2.world.bare := by
  cases hu : Stepping.upcoming c with
  | none => exact ⟨hs, hq⟩
  | some site =>
    obtain ⟨hw, hq'⟩ := h.contact hq (by rw [hu]; rfl)
    obtain ⟨hk', hl⟩ := passes_interrupt hi (some site) doings s ⟨hw, hs⟩
    exact ⟨hk'.allows, hq' hk'.holds hl⟩

/-- The rule for a call in the foreground: its invariant is kept until it is over. -/
lemma Course.perform [Oblivious γ] (h : R.Course Q E) (patience : Patience)
    (hi : R.Abides interruptions) (fuel : Nat) (c : γ) (doings : Doings) {s : Stage}
    (hs : ∀ f ∈ s.calls, R.allows f.call) (hq : Q fuel c s.world.bare) :
    let x := s.perform patience interruptions fuel c doings
    (∀ f ∈ x.2.2.calls, R.allows f.call) ∧ (∀ r, x.1 = some r → E r x.2.2.world.bare) ∧
      (x.1 = none → ∃ c', Q 0 c' x.2.2.world.bare) := by
  induction fuel generalizing c doings s with
  | zero => exact ⟨hs, by rintro r ⟨⟩, fun _ => ⟨c, hq⟩⟩
  | succ fuel ih =>
    obtain ⟨hs₁, hq₁⟩ := h.interrupt hi doings hs hq
    rw [Stage.perform]
    generalize s.interrupt interruptions (Stepping.upcoming c) doings = x at hs₁ hq₁ ⊢
    obtain ⟨doings₁, s₁⟩ := x
    obtain ⟨doings₂, w, ha, hw⟩ := s₁.exists_advance c doings₁
    simp only [ha]
    rcases hp : (Stepping.step s₁.world.bare c).2 with c' | c' | r
    · have hq₂ := h.next hq₁ hp
      rw [← hw] at hq₂
      exact ih c' _ hs₁ hq₂
    · obtain ⟨hh, hq₂⟩ := h.sleep hq₁ hp
      rw [← hw] at hh hq₂
      have hk : R.Kept { s₁ with world := w } := ⟨hh, hs₁⟩
      obtain ⟨hk', hl⟩ := passes_turn patience _ hk
      exact ih c' _ hk'.allows (hq₂ hk'.holds hl)
    · have he := h.done hq₁ hp
      rw [← hw] at he
      exact ⟨hs₁, by rintro r' ⟨⟩; exact he, by rintro ⟨⟩⟩

end Regime

end QueryAdmission
