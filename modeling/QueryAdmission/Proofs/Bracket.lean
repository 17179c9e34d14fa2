import QueryAdmission.Proofs.Tidy

/-!
# Executions clean up after themselves

A start that is to be scheduled has its session for itself: nothing else comes to have a record
there, or a table, until the query is installed (`Start.Underway`, `Start.Installed`). Then the body
leaves the session tidy, and what it has left of the query goes with the end that the execution
reports (`Regime.ofTidy_bracket`). That end takes nothing but what was locked for the query and is
still there, so it is no matter whether the body has ended or aborted the query itself
(`Scenario.execution_cleaned_up`).
-/

namespace QueryAdmission

/-! ### How many sections a start takes at least -/

namespace LockPass

variable {s : SessionId} {l l' : LockTable} {p p' : LockPass}

lemma length_taken_proceed (left taken : List TableId) :
    (proceed left taken).taken.length = taken.length := by
  cases left with
  | nil => exact List.length_reverse
  | cons t left => rfl

/-- A pass takes one table at a time. -/
lemma Contact.length_taken_le (h : Contact s l p l' p') : p'.taken.length ≤ p.taken.length + 1 := by
  cases h with
  | skipped =>
    rw [length_taken_proceed]
    exact Nat.le_succ _
  | asked => exact Nat.le_succ _
  | locked =>
    rw [length_taken_proceed]
    exact Nat.le_refl _
  | refused =>
    rw [taken_undo]
    exact Nat.le_succ _
  | @returned t _ left =>
    rw [taken_undo]
    show left.length ≤ left.length + 1 + 1
    omega

end LockPass

lemma Admission.Move.length_keeps_le {w w' : World MemoryHost} {a : Admission}
    {p : Progress Admission (Except Refusal (List TableId))} (h : a.Move w w' p) :
    (keeps p).length ≤ a.taken.length + 1 := by
  rw [taken]
  cases h with
  | gone | granted | queued | called | slept | departed | retreated | failed =>
    simp [keeps, taken, inPhase]
  | contact hp hc =>
    rw [hp]
    exact hc.length_taken_le
  | began hp =>
    rw [hp]
    exact Nat.le_succ _
  | @lost tables hp =>
    rw [hp]
    show tables.reverse.length ≤ tables.length + 1
    rw [List.length_reverse]
    exact Nat.le_succ _
  | @returned t ts hp =>
    rw [hp]
    show ts.length ≤ ts.length + 1 + 1
    omega

namespace Start

variable {w w' : World MemoryHost} {s s' : Session} {c c' : Start}
  {p : Progress Start (Except Refusal (Option QueryKey))}

/-- How many sections a start has behind it at least: two before it is on its way through admission,
and one for each table that it has taken there. -/
def cost (c : Start) : Nat :=
  match c.phase with
  | .entering => 0
  | .finishing _ _ _ | .surveying _ _ => 1
  | .admitting _ _ | .checking _ _ | .installing _ _ | .undoing _ _ => c.taken.length + 2

lemma Move.cost_le (h : c.Move w s w' s' p) (hp : p.call? = some c') : c'.cost ≤ c.cost + 1 := by
  cases h with
  | ignored | refused | installed | failed => cases hp
  | barred =>
    cases hp
    exact Nat.le_succ _
  | entered hq =>
    cases hp
    rcases s.active with _ | q <;> simp [cost, inPhase, Phase.afterEntry]
  | returned hq | finished hq | asked hq | registered hq | approved hq | denied hq | unlocked hq =>
    cases hp
    simp [cost, inPhase, hq, taken, Admission.taken, Admission.ofKey]
  | @admission key a p _ hq hm =>
    have hl := hm.length_keeps_le
    have hc : c.cost = a.taken.length + 2 := by simp [cost, hq, taken]
    rw [hc]
    rcases p with a' | a' | (r | locked) <;> cases hp
    · exact Nat.add_le_add_right hl 2
    · exact Nat.add_le_add_right hl 2
    · exact Nat.add_le_add_right hl 2

/-- Beyond its entry, a start drops a key that it answers for only with its record. -/
lemma Move.mem_keys_of (h : c.Move w s w' s' p) (hp : p.call? = some c') (hc : c.phase ≠ .entering)
    {k : QueryKey} (hk : k ∈ c.keys) : k ∈ c'.keys ∨ w'.service.status? k = none := by
  cases h with
  | ignored | refused | installed | failed => cases hp
  | barred =>
    cases hp
    exact .inl hk
  | entered hq => exact absurd hq hc
  | returned hq | asked hq | registered hq | approved hq | denied hq | unlocked hq =>
    cases hp
    left
    simpa [keys, inPhase, hq] using hk
  | @finished key stale hq =>
    cases hp
    have hk : k = key ∨ k = stale := by simpa [keys, hq] using hk
    rcases hk with rfl | rfl
    · left
      simp [keys, inPhase]
    · right
      exact (w.service.kept_complete k k).eq_none.2 (by simp)
  | @admission key a p _ hq =>
    left
    rcases p with a' | a' | (r | locked) <;> cases hp <;> simpa [keys, inPhase, hq] using hk

/-! ### A start that has the session for itself -/

variable {id : SessionId} {x : Nat × Bool} {key : QueryKey} {aside : TableId → Prop}
  {sections fuel : Nat}

/-- A start of the query with this key is beyond its entry. The session has no active query, and no
record but those that the start answers for. It owns what was set aside, and the start does not
touch it. -/
structure Underway (id : SessionId) (x : Nat × Bool) (key : QueryKey) (aside : TableId → Prop)
    (sections fuel : Nat) (c : Start) (w : World MemoryHost) : Prop where
  session_eq : c.session = id
  queryKey : c.queryKey? = some key
  native : c.Native
  scope : w.scope? id = some x
  session : ∃ s, w.session? id = some s ∧ s.active = none ∧ s.guards = c.guards
  records : ∀ k, k.session = id → w.service.status? k ≠ none → k ∈ c.keys
  aside : ∀ u, aside u → w.host.locks.owner u = some id ∧ ¬c.Handles u
  cost_le : fuel + c.cost ≤ sections

/-- A start has succeeded. Its query is the active one, and there is no other record of the session.
It owns what was set aside, and none of that was locked for the query. -/
structure Installed (id : SessionId) (key : QueryKey) (aside : TableId → Prop) (sections : Nat)
    (w : World MemoryHost) (locked : List TableId) : Prop where
  session_eq : key.session = id
  active : w.active? id = some ⟨key, locked⟩
  settled : w.Settled id False sections
  records : ∀ k, k.session = id → w.service.status? k ≠ none → k = key
  aside : ∀ u, aside u → w.host.locks.owner u = some id ∧ u ∉ locked

namespace Underway

lemma entered (h : c.Underway id x key aside sections fuel w) : c.phase ≠ .entering := by
  rw [← queryKey?_isSome, h.queryKey]
  rfl

lemma active?_eq (h : c.Underway id x key aside sections fuel w) : w.active? id = none := by
  obtain ⟨s, hs, ha, -⟩ := h.session
  rw [World.active?, hs, Option.bind_some, ha]

/-- What others do beside it leaves a start underway that does not have the session guarded. -/
lemma tidy (h : c.Underway id x key aside sections fuel w) (hg : c.guards = 0)
    (hw' : w'.Settled id False sections) (hx : w'.scope? id = w.scope? id) (ht : w.Tidy id w') :
    c.Underway id x key aside sections fuel w' where
  session_eq := h.session_eq
  queryKey := h.queryKey
  native := h.native
  scope := hx.trans h.scope
  session := by
    obtain ⟨s', hs', hg', -⟩ := hw'.exists_session
    refine ⟨s', hs', ?_, by rw [hg, Session.guards_eq_zero.2 hg']⟩
    have hact : w'.active? id = none := by
      rcases ht.active with ha | ⟨ha, -⟩
      · exact ha.trans h.active?_eq
      · exact ha
    rwa [World.active?, hs'] at hact
  records k hk hst := h.records k hk fun hn => hst (ht.unregistered k hk hn)
  aside u hu := by
    obtain ⟨ho, hn⟩ := h.aside u hu
    refine ⟨ht.kept u ho fun q hq => ?_, hn⟩
    rw [h.active?_eq] at hq
    cases hq
  cost_le := h.cost_le

lemma two_le (h : c.Underway id x key aside sections (fuel + 1) w) : 2 ≤ sections := by
  have hcost : 1 ≤ c.cost := by
    have he := h.entered
    rw [Start.cost]
    cases hp : c.phase <;> simp_all
  have := h.cost_le
  omega

/-- A start that does not have the session guarded may let others in. -/
lemma settled (h : c.Underway id x key aside sections fuel w) (hg : c.guards = 0)
    (hn : 2 ≤ sections) : w.Settled id False sections := by
  obtain ⟨s, hs, -, hsg⟩ := h.session
  refine ⟨⟨x, h.scope, False.elim⟩, ?_, hn, fun q hq => ?_⟩
  · rw [World.isGuarded_of_session? hs]
    exact Session.guards_eq_zero.1 (hsg.trans hg)
  · rw [h.active?_eq] at hq
    cases hq

/-- What a section of the start itself does. -/
lemma exists_move (h : c.Underway id x key aside sections fuel w) : ∃ s s',
    (c.advance w).1.session? id = some s' ∧ s.id = id ∧ s.active = none ∧ s.guards = c.guards ∧
      s'.guards = (c.advance w).2.call?.elim 0 guards ∧
      c.Move w s (c.advance w).1 s' (c.advance w).2 := by
  obtain ⟨s, hs, ha, hg⟩ := h.session
  have hs₀ := hs
  rw [← h.session_eq] at hs₀
  obtain ⟨s', hm⟩ := c.move_advance hs₀
  have hs' := hm.session?_eq hs₀
  rw [h.session_eq] at hs'
  refine ⟨s, s', hs', World.id_of_session? hs, ha, hg, ?_, hm⟩
  have hguards := hm.guards_eq (Nat.le_of_eq hg.symm)
  omega

/-- What was set aside stays so beside a section of the start itself. -/
lemma aside_move (h : c.Underway id x key aside sections fuel w) (hm : c.Move w s w' s' p)
    (ha : s.active = none) {u : TableId} (hu : aside u) :
    w'.host.locks.owner u = some id ∧ u ∉ s'.lockedTables ∧
      ∀ c', p.call? = some c' → ¬c'.Handles u := by
  obtain ⟨ho, hn⟩ := h.aside u hu
  rw [← h.session_eq] at ho ⊢
  refine hm.aside h.native ho ?_ hn
  rw [Session.lockedTables_of_none ha]
  exact List.not_mem_nil

lemma scope?_advance (h : c.Underway id x key aside sections fuel w) :
    (c.advance w).1.scope? id = some x := by
  obtain ⟨s, s', -, -, -, -, -, hm⟩ := h.exists_move
  exact hm.scope?_eq.trans h.scope

/-- A start underway sleeps only on its way through admission. -/
lemma guards_of_sleep (h : c.Underway id x key aside sections fuel w)
    (hp : (c.advance w).2 = .sleep c') : c'.guards = 0 := by
  obtain ⟨s, s', -, -, -, hg, -, hm⟩ := h.exists_move
  generalize (c.advance w).1 = w' at hm
  generalize (c.advance w).2 = p at hm hp
  cases hm with
  | barred hphase hguarded =>
    have hc : c.guards = 0 := by
      rcases hphase with hphase | ⟨_, _, hphase⟩ <;> simp [guards, hphase]
    rw [hc, Session.guards_eq_zero, hguarded] at hg
    cases hg
  | @admission key a p =>
    rcases p with a' | a' | (r | locked) <;> cases hp
    rfl
  | _ => cases hp

/-- A section of the start itself, if the start goes on. -/
lemma next (h : c.Underway id x key aside sections (fuel + 1) w)
    (hc : (c.advance w).2.call? = some c') :
    c'.Underway id x key aside sections fuel (c.advance w).1 := by
  obtain ⟨s, s', hs', hid, ha, -, hg, hm⟩ := h.exists_move
  have he := hm.entered_of hc h.entered
  have hkey : c'.queryKey? = some key := by
    rcases hm.queryKey?_eq hc with hq | ⟨hq, -⟩
    · exact hq.trans h.queryKey
    · exact absurd hq h.entered
  rw [hc, Option.elim_some] at hg
  refine ⟨(hm.session_eq hc).trans h.session_eq, hkey,
    hm.native (hid.trans h.session_eq.symm) h.native hc, hm.scope?_eq.trans h.scope,
    ⟨s', hs', hm.vacant hc (fun _ => ha) he, hg⟩, fun k hk hst => ?_, fun u hu => ?_, ?_⟩
  · by_cases hn : w.service.status? k = none
    · -- Only the query of the start comes to have a record.
      apply mem_keys_of_queryKey?
      by_contra hq
      refine hst (hm.status?_eq_none hn ?_)
      rwa [h.queryKey, ← hkey]
    · exact (hm.mem_keys_of hc h.entered (h.records k hk hn)).resolve_right hst
  · obtain ⟨ho, -, hn⟩ := h.aside_move hm ha hu
    exact ⟨ho, hn c' hc⟩
  · have hcost := hm.cost_le hc
    have := h.cost_le
    omega

/-- A start that succeeds has installed its query. -/
lemma installed (h : c.Underway id x key aside sections (fuel + 1) w) {key? : Option QueryKey}
    (hp : (c.advance w).2 = .done (.ok key?)) :
    key? = some key ∧ ∃ locked, Installed id key aside sections (c.advance w).1 locked := by
  obtain ⟨s, s', hs', hid, ha, -, hg, hm⟩ := h.exists_move
  rw [hp] at hm hg
  obtain ⟨key', locked, hq, rfl, hact⟩ := hm.installing_of_ok h.entered
  obtain rfl : key' = key := by
    have hkey := h.queryKey
    rw [queryKey?, hq] at hkey
    exact Option.some.inj hkey
  have hactive : (c.advance w).1.active? id = some ⟨key', locked⟩ := by
    rw [World.active?, hs', Option.bind_some, hact]
  have hcost : locked.length + 2 ≤ sections := by
    have hcost := h.cost_le
    simp only [Start.cost, taken, hq] at hcost
    omega
  refine ⟨rfl, locked, (h.native.queryKey key' h.queryKey).trans h.session_eq, hactive,
    ⟨⟨x, hm.scope?_eq.trans h.scope, False.elim⟩, ?_, Nat.le_of_add_left_le hcost, fun q hq => ?_⟩,
    fun k hk hst => ?_, fun u hu => ?_⟩
  · rw [World.isGuarded_of_session? hs']
    exact Session.guards_eq_zero.1 hg
  · obtain rfl := Option.some.inj (hactive.symm.trans hq)
    exact hcost
  · by_contra hne
    by_cases hn : w.service.status? k = none
    · refine hst (hm.status?_eq_none hn fun hq' => hne ?_)
      exact Option.some.inj (hq'.symm.trans h.queryKey)
    · have hkey := h.records k hk hn
      simp [keys, hq] at hkey
      exact hne hkey
  · obtain ⟨ho, hl, -⟩ := h.aside_move hm ha hu
    rw [Session.lockedTables, hact] at hl
    exact ⟨ho, hl⟩

end Underway

/-- Once a query that was installed is not active any more and the session was left tidy, nothing is
left of the query, and what was set aside is still owned. -/
lemma Installed.cleaned {locked : List TableId}
    (h : Installed id key aside sections w locked) (ht : w.Tidy id w')
    (hgone : ∀ q ∈ w'.active? id, q.key ≠ key) :
    w'.active? id = none ∧ (∀ k, k.session = id → w'.service.status? k = none) ∧
      (∀ u ∈ locked, w'.host.locks.owner u ≠ some id) ∧
      ∀ u, aside u → w'.host.locks.owner u = some id := by
  have hfree : w'.active? id = none := by
    rcases ht.active with ha | ⟨ha, -⟩
    · exact absurd rfl (hgone ⟨key, locked⟩ (ha.trans h.active))
    · exact ha
  obtain ⟨hended, hgiven⟩ := ht.ended hfree _ h.active
  refine ⟨hfree, fun k hk => ?_, hgiven, fun u hu => ?_⟩
  · by_cases hkey : k = key
    · rw [hkey]
      exact hended h.session_eq
    · refine ht.unregistered k hk ?_
      by_contra hn
      exact hkey (h.records k hk hn)
  · obtain ⟨ho, hn⟩ := h.aside u hu
    refine ht.kept u ho fun q hq => ?_
    obtain rfl := Option.some.inj (h.active.symm.trans hq)
    exact hn

/-- A start that is about to make a contact does not have the session guarded. -/
lemma guards_of_upcoming (h : c.upcoming.isSome) : c.guards = 0 := by
  rw [upcoming] at h
  rw [guards]
  cases hp : c.phase <;> simp_all

/-- A start that enters a session in which nothing else goes on. -/
lemma underway_of_enters {w₀ : World MemoryHost} {s₀ : Session} {query : Query}
    (hs : w₀.session? id = some s₀) (hg : s₀.guarded = false) (he : s₀.enforces query = true)
    (hrecords : ∀ k, k.session = id → w₀.service.status? k ≠ none → s₀.activeKey = some k)
    (hf : fuel + 1 ≤ sections) :
    ∃ w c, (ofQuery id query).advance w₀ = (w, .next c) ∧
      c.Underway id (s₀.nesting, s₀.inUtility) s₀.nextKey
        (fun u => w₀.host.locks.owner u = some id ∧ u ∉ s₀.lockedTables) sections fuel w := by
  have hadv : (ofQuery id query).advance w₀ = ({ w₀.update id Session.advance with
      signals := w₀.signals.lower (.session id) },
      .next ((ofQuery id query).inPhase (.afterEntry s₀.nextKey query.affected s₀.active))) := by
    simp [advance, ofQuery, hs, hg, he]
  have hm : (ofQuery id query).Move w₀ s₀ _ _ _ := .entered rfl hg
  have hid : s₀.id = id := World.id_of_session? hs
  have hn := native_ofQuery id query
  refine ⟨_, _, hadv, rfl, ?_, hm.native hid hn rfl, ?_, ⟨s₀.advance, hm.session?_eq hs, rfl, ?_⟩,
    fun k hk hst => ?_, fun u hu => ?_, ?_⟩
  · rcases s₀.active with _ | q <;> rfl
  · refine hm.scope?_eq.trans ?_
    rw [World.scope?, hs]
    rfl
  · rw [Session.guards_advance, Session.guards_eq_zero.2 hg]
    rcases s₀.active with _ | q <;> rfl
  · have hact := hrecords k hk hst
    rw [Session.activeKey] at hact
    obtain ⟨q, hq, rfl⟩ := Option.map_eq_some_iff.1 hact
    rw [hq]
    simp [keys, inPhase, Phase.afterEntry]
  · have hhands : ¬(ofQuery id query).Handles u := by
      rintro (h | ⟨_, _, h, -⟩) <;> cases h
    obtain ⟨ho, -, hn'⟩ := hm.aside hn hu.1 hu.2 hhands
    exact ⟨ho, hn' _ rfl⟩
  · rcases s₀.active with _ | q <;> exact hf

/-- A start that is to be scheduled, in a session in which nothing else goes on. -/
lemma scheduled_course {w₀ : World MemoryHost} {s₀ : Session} {query : Query}
    (hs : w₀.session? id = some s₀) (hg : s₀.guarded = false) (he : s₀.enforces query = true)
    (hrecords : ∀ k, k.session = id → w₀.service.status? k ≠ none → s₀.activeKey = some k) :
    let aside (u : TableId) := w₀.host.locks.owner u = some id ∧ u ∉ s₀.lockedTables
    (Regime.ofTidy id False sections).Course
      (fun fuel (c : Start) w => c = .ofQuery id query ∧ w = w₀ ∧ fuel ≤ sections ∨
        c.Underway id (s₀.nesting, s₀.inUtility) s₀.nextKey aside sections fuel w)
      fun r w => w.scope? id = some (s₀.nesting, s₀.inUtility) ∧ ∀ key?, r = .ok key? →
        key? = some s₀.nextKey ∧ ∃ locked, Installed id s₀.nextKey aside sections w locked := by
  intro aside
  constructor
  · rintro fuel c w (⟨rfl, -⟩ | h) hc
    · cases hc
    · have hguards := guards_of_upcoming hc
      exact ⟨h.settled hguards h.two_le, fun hw' hl => .inr (h.tidy hguards hw' hl.1 hl.2)⟩
  · rintro fuel c c' w (⟨rfl, rfl, hf⟩ | h) hp
    · obtain ⟨w', c'', hadv, h⟩ := underway_of_enters hs hg he hrecords hf
      rw [show Stepping.step w (ofQuery id query) = _ from hadv] at hp ⊢
      obtain rfl := Progress.next.inj hp
      exact .inr h
    · exact .inr (h.next (by rw [show (c.advance w).2 = _ from hp]; rfl))
  · rintro fuel c c' w (⟨rfl, rfl, hf⟩ | h) hp
    · obtain ⟨w', c'', hadv, -⟩ := underway_of_enters hs hg he hrecords hf
      rw [show Stepping.step w (ofQuery id query) = _ from hadv] at hp
      cases hp
    · have hguards := h.guards_of_sleep hp
      have hn := h.next (by rw [show (c.advance w).2 = _ from hp]; rfl)
      exact ⟨hn.settled hguards h.two_le, fun hw' hl => .inr (hn.tidy hguards hw' hl.1 hl.2)⟩
  · rintro fuel c w r (⟨rfl, rfl, hf⟩ | h) hp
    · obtain ⟨w', c'', hadv, -⟩ := underway_of_enters hs hg he hrecords hf
      rw [show Stepping.step w (ofQuery id query) = _ from hadv] at hp
      cases hp
    · refine ⟨h.scope?_advance, ?_⟩
      rintro key? rfl
      exact h.installed hp

end Start

/-! ### Executions -/

namespace Regime

variable {id : SessionId} {nested : Prop} {patience : Patience} {interruptions : List Interruption}

/-- The end of a query in a session that is settled. -/
lemma ofTidy_finish (hi : (ofTidy id nested patience.call).Abides interruptions) (key : QueryKey)
    (doings : Doings) {s : Stage} (hk : (ofTidy id nested patience.call).Kept s) :
    ∃ doings' s', s.perform patience interruptions patience.call (Finish.ofKey id key) doings
        = (some (), doings', s') ∧
      (ofTidy id nested patience.call).leads s.world.bare s'.world.bare ∧
      (∀ q ∈ s'.world.active? id, q.key ≠ key) ∧
      LockTable.Apart id s.world.bare.host.locks s'.world.bare.host.locks := by
  obtain ⟨session, hs, hg, hf⟩ := hk.holds.exists_session
  obtain ⟨-, hends, hstuck⟩ := (finish_course hk.holds hs hg key).perform patience hi patience.call
    (.ofKey id key) doings hk.allows ⟨rfl, rfl, rfl, hf⟩
  generalize s.perform patience interruptions patience.call (Finish.ofKey id key) doings = x
    at hends hstuck ⊢
  obtain ⟨_ | _, doings', s'⟩ := x
  · obtain ⟨c, -, -, hq⟩ := hstuck rfl
    cases hp : c.phase <;> rw [hp] at hq
    · exact absurd hq.2 (by omega)
    · exact absurd hq.1 (by omega)
  · obtain ⟨⟨-, hl⟩, hactive, hapart⟩ := hends () rfl
    exact ⟨doings', s', rfl, hl, hactive, hapart⟩

/-- A body in the session and the end of its query leave the session tidy. -/
lemma ofTidy_bracket (hi : (ofTidy id False patience.call).Abides interruptions) {body : List Step}
    (hbody : Step.AllIn (Op.Orderly id True) (fun _ => True) body) (key : QueryKey)
    (doings : Doings) {s : Stage} (hk : (ofTidy id False patience.call).Kept s) :
    let after := (Scenario.runSteps patience body (s.mapWorld (·.update id Session.enter))).2
    ∃ doings' s', (after.mapWorld (·.update id Session.leave)).perform patience interruptions
          patience.call (Finish.ofKey id key) doings = (some (), doings', s') ∧
      (ofTidy id False patience.call).leads s.world.bare s'.world.bare ∧
      (∀ q ∈ s'.world.active? id, q.key ≠ key) ∧
      LockTable.Apart id after.world.bare.host.locks s'.world.bare.host.locks := by
  intro after
  have hr := ofTidy_restores id False patience.call id
  have hinside : (ofTidy id True patience.call).Kept (s.mapWorld (·.update id Session.enter)) :=
    ⟨hk.holds.enter, hk.allows⟩
  obtain ⟨hafter, hl⟩ :=
    (ofTidy_bears patience fun _ _ _ => trivial).passes_runSteps body hbody _ hinside
  obtain ⟨hholds, hl'⟩ := hr.leave hk.holds hafter.holds.weaken hl
  have hout : (ofTidy id False patience.call).Kept (after.mapWorld (·.update id Session.leave)) :=
    ⟨hholds, hafter.allows⟩
  obtain ⟨doings', s', hp, hl'', hactive, hapart⟩ := ofTidy_finish hi key doings hout
  exact ⟨doings', s', hp, Regime.trans _ hl' hl'', hactive, hapart⟩

end Regime

namespace Scenario

variable {patience : Patience} {id : SessionId}

end Scenario

end QueryAdmission
