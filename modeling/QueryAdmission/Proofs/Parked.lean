import QueryAdmission.Proofs.Idle
import QueryAdmission.Proofs.Reason

/-!
# Parked starts

A start sleeps if its query is queued and the next poll would change nothing (`Start.Sleeps`). When
no call is halfway and all starts in progress sleep (`Traffic.Asleep`), nobody owes a pass any more.
So each of them has one of the other reasons to wait: all slots are in use, or another session owns
one of its tables, or it was overlooked (`Traffic.parked_for_reason`).

An overlooked query may be left waiting while there are free slots and its tables are free
(`Traffic.parked_although_free`). It has to wait for the next pass, which the end of another
session's query will run.
-/

namespace QueryAdmission

namespace Service

variable {s : Service} {key : QueryKey} {called : Bool}

/-- A poll that changes nothing is one of a query that waits while slots are in use. -/
lemma Sound.poll_none (h : s.Sound) (hpoll : s.poll key called = (none, s)) :
    s.status? key = some .waiting ∧ 0 < s.running := by
  rcases hl : s.look key with ⟨_ | _ | _, s'⟩
  all_goals rw [Service.poll, hl] at hpoll
  · cases hpoll
  · cases hpoll
  · have hs : s' = s := by
      dsimp only at hpoll
      split_ifs at hpoll
      · cases hpoll
      · cases hpoll
      · exact (Prod.mk.inj hpoll).2
    subst hs
    obtain ⟨status, hst, hh⟩ := s'.look_found key hl (by simp)
    have hw : status = .waiting := by
      cases status with
      | waiting => rfl
      | available | running => simp at hh
      | gaveUp => exact absurd hst (h.status?_ne_gaveUp key)
    subst hw
    refine ⟨hst, Nat.pos_of_ne_zero fun h0 => ?_⟩
    -- It would have forced a pass.
    rw [Service.look, hst] at hl
    dsimp only at hl
    rw [if_pos ⟨h0, by decide⟩] at hl
    have hheals : s'.tally.selfHeals + 1 = s'.tally.selfHeals :=
      congrArg (fun look => look.2.tally.selfHeals) hl
    omega

end Service

/-- Whether the start's query is queued, is not about to leave, and its next poll would change
nothing. -/
def Start.Sleeps (w : World MemoryHost) (c : Start) : Prop :=
  ∃ key a wait, c.phase = .admitting key a ∧ a.phase = .waiting wait ∧
    (∀ why, wait.phase ≠ .leaving why) ∧
    w.service.poll wait.key (w.signals.isRaised wait.signal) = (none, w.service)

namespace Activity

variable {w : World MemoryHost} {a : Activity}

/-- Whether no call is halfway in it: it is no call, or has yet to make its first step, or is a
start whose next poll would change nothing. -/
def Sleeps (w : World MemoryHost) (a : Activity) : Prop :=
  a.isCall → a.isFresh ∨ ∃ c executes, a = .start c executes ∧ c.Sleeps w

lemma Sleeps.not_owes (h : a.Sleeps w) : ¬a.Owes w := by
  intro ho
  rcases h ho.isCall with hf | ⟨c, executes, rfl, key, adm, wait, hp, hq, -⟩
  · exact not_owes_of_isFresh hf ho
  · exact not_owes_of_waiting hp hq ho

/-- Where no call is halfway, nobody is about to sweep, and who answers for a key waits. -/
lemma Sleeps.account (h : a.Sleeps w) (ha : a.FitsRoster w) (hw : w.service.Sound) :
    a.sweeps = 0 ∧ ∀ k ∈ a.keys, w.service.status? k = some .waiting := by
  cases hc : a.isCall with
  | false =>
    cases a with
    | start | finish | abort => cases hc
    | entering | inside | utility => exact ⟨rfl, fun k hk => absurd hk (Multiset.notMem_zero k)⟩
  | true =>
    rcases h hc with hf | ⟨c, executes, rfl, key, adm, wait, hp, hq, -, hpoll⟩
    · obtain ⟨-, hk, -, hs⟩ := account_of_isFresh hf
      rw [hk]
      exact ⟨hs, fun k hk => absurd hk (Multiset.notMem_zero k)⟩
    · obtain ⟨hkey, hwait⟩ := Start.Coherent.admission ha.coherent key adm hp
      refine ⟨rfl, fun k hk => ?_⟩
      have hk : k = key := by simpa [keys, Start.keys, hp] using hk
      rw [hk, ← hwait wait hq]
      exact (hw.poll_none hpoll).1

end Activity

namespace Traffic

/-- No call is halfway: each start in progress sleeps, and its next poll would change nothing. -/
def Asleep (t : Traffic) : Prop := ∀ a ∈ t.underway, a.Sleeps t.world

variable {t₀ t t' : Traffic} {e : Event} {events : List Event} {settings : Settings}
  {service : Service} {index : ViewIndex} {kind : Activity → Bool}

/-- A record that holds a slot while no call is halfway is that of a session's active query. -/
lemma Asleep.active_of_holdsSlot (hsleep : t.Asleep) (ho : t.Ordered) {r : Record}
    (hr : r ∈ t.world.service.records) (hh : r.holdsSlot) :
    ∃ s ∈ t.world.sessions, ∃ q, s.active = some q ∧
      t.world.service.status? q.key = some .running := by
  have hst : t.world.service.status? r.key = some r.status :=
    (Roster.status?_eq_some_iff ho.sound.keys_nodup).2 ⟨r, hr, rfl, rfl⟩
  have hne : t.world.service.status? r.key ≠ none := by
    rw [hst]
    exact Option.some_ne_none _
  rcases hs : t.world.session? r.key.session with _ | s
  · exact absurd ((ho.absent _ hs).2.2 r.key rfl) hne
  · have hin := ho.present _ s hs
    have account {a : Activity} (ha : a ∈ t.within r.key.session) :=
      (hsleep a (Activity.mem_ofSession.1 ha).1).account (hin.fitsSession a ha).fitsRoster ho.sound
    have hk : r.key ∈ s.keys := by
      rcases hin.answered r.key (World.id_of_session? hs).symm hne with hk | ⟨a, ha, hsw⟩
      · refine (Multiset.mem_add.1 hk).resolve_right fun hk => ?_
        obtain ⟨a, ha, hk⟩ := Multiset.mem_bind.1 hk
        have hw := (account ha).2 r.key hk
        rw [hst] at hw
        rw [Record.holdsSlot, Option.some.inj hw] at hh
        cases hh
      · rw [(account ha).1] at hsw
        cases hsw
    obtain ⟨locked, hq⟩ := Session.mem_keys.1 hk
    exact ⟨s, (ho.proper.session?_eq_some.1 hs).1, _, hq, hin.running _ hk⟩

lemma Step.settings_eq (hs : Step t e t') (hp : t.Proper) :
    t'.world.service.settings = t.world.service.settings := by
  cases hs with
  | opened | begun | shutDown | indexed => rfl
  | raised signal => cases signal <;> rfl
  | @advanced a rest ha =>
    obtain ⟨s, hs⟩ := hp.session?_of_mem (ha ▸ Multiset.mem_cons_self a rest)
    obtain ⟨s', hm⟩ := Activity.move_advance hs
    rcases t.advance_eq a rest with he | ⟨-, -, he⟩
    all_goals
      rw [he]
      exact hm.alike.1

lemma Run.settings_eq (hp : t₀.Proper) (h : Run kind t₀ events t) :
    t.world.service.settings = t₀.world.service.settings := by
  induction h with
  | nil => rfl
  | snoc h hs _ ih => exact (hs.settings_eq (h.proper hp)).trans ih

/-- When no call is halfway in a run in which the calls of one session do not overlap, each start
that sleeps is parked for a reason. Either all slots are in use. Or another session owns one of its
tables. Or it was overlooked: the table at which its last lock pass was refused had come free before
it gave its slot up, and nobody has been given a slot since; but then a query of another session
runs, and its end will be a pass. -/
theorem parked_for_reason (hb : Service.build settings = .ok service)
    (hrun : Run Activity.isCall (ofService service index) events t) (hsleep : t.Asleep)
    {c : Start} {executes : Bool} (hc : .start c executes ∈ t.underway) (hs : c.Sleeps t.world) :
    ∃ key a, c.phase = .admitting key a ∧
      (t.world.service.running = settings.maxConcurrent.toNat ∨
        (∃ u ∈ a.tables, ∃ o, t.world.host.locks.owner u = some o ∧ o ≠ c.session) ∨
        Overlooked (ofService service index) events t key a.tables ∧
          ∃ s ∈ t.world.sessions, ∃ q, s.id ≠ c.session ∧ s.active = some q ∧
            t.world.service.status? q.key = some .running) := by
  obtain ⟨key, a, wait, hp, hq, -, hpoll⟩ := hs
  refine ⟨key, a, hp, ?_⟩
  have hord := ordered_ofService hb index
  have ho : t.Ordered := hrun.ordered hord rfl fun _ => Activity.isCall_of_isStart
  obtain ⟨s, hs⟩ := ho.proper.session?_of_mem hc
  have hin := ho.present _ s hs
  have hok : c.FitsSession t.world s := hin.fitsSession _ (Activity.mem_ofSession.2 ⟨hc, rfl⟩)
  have hsess : key.session = c.session :=
    ho.proper.session_eq hc (by simp [Activity.keys, Start.keys, hp])
  have hkey : wait.key = key := (Start.Coherent.admission hok.coherent key a hp).2 wait hq
  obtain ⟨hw, hpos⟩ := ho.sound.poll_none hpoll
  rw [hkey] at hw
  rcases (hrun.heeded hord rfl).excused _ hc key a.tables ⟨a, wait, hp, hq, rfl⟩ hw with
    hfull | ⟨u, hu, o, hown, hne⟩ | ⟨b, hb, howes⟩ | hover
  · left
    obtain ⟨rfl, -⟩ := Service.build_eq_ok hb
    rw [hfull, Service.slots, hrun.settings_eq hord.proper]
    rfl
  · exact .inr (.inl ⟨u, hu, o, hown, hsess ▸ hne⟩)
  · exact absurd howes (hsleep b hb).not_owes
  · obtain ⟨r, hr, hh⟩ := ho.sound.exists_holdsSlot hpos
    obtain ⟨s', hs', q, hq', hrunning⟩ := hsleep.active_of_holdsSlot ho hr hh
    refine .inr (.inr ⟨hover, s', hs', q, ?_, hq', hrunning⟩)
    intro hid
    have heq := ho.proper.session?_eq_some.2 ⟨hs', hid⟩
    change t.world.session? c.session = some s at hs
    rw [hs] at heq
    cases heq
    rw [hok.vacant (by simp [hp])] at hq'
    cases hq'

lemma asleep_singleton {w : World MemoryHost} {c : Start} {executes : Bool} (h : c.Sleeps w) :
    Asleep ⟨w, {.start c executes}⟩ := by
  intro a ha _
  exact .inr ⟨c, executes, Multiset.mem_singleton.1 ha, h⟩

/-- What a call leads to is the same call, if it is no start that is followed by an execution. -/
lemma call_of_advance (a b : Activity) (w : World MemoryHost)
    (ha : (∃ c, a = .start c false) ∨ ∃ c, a = .finish c) (h : (a.advance w).2.call? = some b) :
    ((∃ c, b = .start c false) ∨ ∃ c, b = .finish c) ∧ (b.isCall → a.isCall) := by
  rcases ha with ⟨c, rfl⟩ | ⟨c, rfl⟩
  · refine ⟨.inl ?_, fun _ => rfl⟩
    change (Activity.ofStart c.session false (c.advance w).2).call? = some b at h
    generalize (c.advance w).2 = p at h
    rcases p with c' | c' | (r | key) <;> cases h
    · exact ⟨c', rfl⟩
    · exact ⟨c', rfl⟩
  · obtain ⟨c', -, rfl⟩ := Activity.mem_ofCall h
    exact ⟨.inr ⟨c', rfl⟩, fun _ => rfl⟩

/-- With three slots: the third session needs the table 10, which the second one has. The second
one's query ends after the third one was refused the table and before it has given its slot up. -/
lemma run_overlooked :
    let service := Service.ofSettings ⟨3, 4, 4, .ofNanos 30000⟩
    let index := (ViewIndex.empty.register 1 [30]).register 2 [10]
    let a : Admission := ⟨⟨3, 1⟩, [10], .session 3, .waiting ⟨⟨3, 1⟩, .session 3, 1, .looking⟩⟩
    let c : Start := ⟨3, ⟨"select", 7, [2], false, false⟩, .admitting ⟨3, 1⟩ a⟩
    ∃ events w, Run Activity.isCall (ofService service index) events ⟨w, {.start c false}⟩ ∧
      c.Sleeps w ∧ w.service.running = 1 ∧ w.host.locks.owner 10 = none := by
  intro service index a c
  let first : Activity := .start (.ofQuery 1 ⟨"select", 7, [1], false, false⟩) false
  let second : Activity := .start (.ofQuery 2 ⟨"select", 7, [2], false, false⟩) false
  let third : Activity := .start (.ofQuery 3 ⟨"select", 7, [2], false, false⟩) false
  let ending : Activity := .finish (.ofKey 2 ⟨2, 1⟩)
  let refused : Activity := .start ⟨3, ⟨"select", 7, [2], false, false⟩,
    .admitting ⟨3, 1⟩ (a.inPhase (.locking (.refusedAt 10)))⟩ false
  have hb : Service.build ⟨3, 4, 4, .ofNanos 30000⟩ = .ok service := rfl
  have ho := (ordered_ofService hb index).proper
  let opened := ((((ofService service index).world.openSession .backend).2.openSession
    .backend).2.openSession .backend).2
  let w₁ := (sections 9 opened first).1
  let w₂ := (sections 9 w₁ second).1
  let w₃ := (sections 6 w₂ third).1
  let w₄ := (sections 3 w₃ ending).1
  let w₅ := (sections 3 w₄ refused).1
  have hone : (sections 9 opened first).2 = none := by decide +kernel
  have htwo : (sections 9 w₁ second).2 = none := by decide +kernel
  have hthree : (sections 6 w₂ third).2 = some refused := by decide +kernel
  have hfour : (sections 3 w₃ ending).2 = none := by decide +kernel
  have hfive : (sections 3 w₄ refused).2 = some (.start c false) := by decide +kernel
  have hopen₂ : w₁.session? 2 ≠ none := by decide +kernel
  have hopen₃ : w₂.session? 3 ≠ none := by decide +kernel
  have hopen₄ : w₃.session? 2 ≠ none := by decide +kernel
  have hpoll : w₅.service.poll ⟨3, 1⟩ (w₅.signals.isRaised (.session 3)) = (none, w₅.service) := by
    decide +kernel
  have hrunning : w₅.service.running = 1 := by decide +kernel
  have hfree : w₅.host.locks.owner 10 = none := by decide +kernel
  have h₀ : Run Activity.isCall (ofService service index) _ ⟨opened, 0⟩ :=
    .snoc (.snoc (.snoc .nil (.opened .backend) (by decide +kernel)) (.opened .backend)
      (by decide +kernel)) (.opened .backend) (by decide +kernel)
  have h₁ := (h₀.begin (a := first) rfl (by decide +kernel) (by simp) (by decide +kernel)).sections
    ho rfl call_of_advance 9 (.inl ⟨_, rfl⟩) rfl
  rw [hone] at h₁
  have h₂ := (h₁.begin (a := second) rfl hopen₂ (by simp) (by decide +kernel)).sections
    ho rfl call_of_advance 9 (.inl ⟨_, rfl⟩) rfl
  rw [htwo] at h₂
  have h₃ := (h₂.begin (a := third) rfl hopen₃ (by simp) (by decide +kernel)).sections
    ho rfl call_of_advance 6 (.inl ⟨_, rfl⟩) rfl
  rw [hthree] at h₃
  have h₄ := (h₃.begin (a := ending) rfl hopen₄ (by decide +kernel) (by decide +kernel)).sections
    ho rfl call_of_advance 3 (.inr ⟨_, rfl⟩) rfl
  rw [hfour] at h₄
  change Run _ _ _ ⟨w₄, refused ::ₘ 0⟩ at h₄
  have h₅ := h₄.sections ho rfl call_of_advance 3 (.inl ⟨_, rfl⟩) rfl
  rw [hfive] at h₅
  exact ⟨_, w₅, h₅, ⟨_, _, _, rfl, rfl, nofun, hpoll⟩, hrunning, hfree⟩

/-- Not every start that sleeps is parked because all slots are in use or another session owns one
of its tables. -/
theorem parked_although_free :
    ¬∀ settings service, Service.build settings = .ok service →
      ∀ index events t, Run Activity.isCall (ofService service index) events t → t.Asleep →
        ∀ c executes, .start c executes ∈ t.underway → c.Sleeps t.world →
          ∃ key a, c.phase = .admitting key a ∧
            (t.world.service.running = settings.maxConcurrent.toNat ∨
              ∃ u ∈ a.tables, ∃ o, t.world.host.locks.owner u = some o ∧ o ≠ c.session) := by
  intro h
  obtain ⟨events, w, hrun, hsleeps, hrunning, hfree⟩ := run_overlooked
  obtain ⟨key, a, hp, hreason⟩ := h ⟨3, 4, 4, .ofNanos 30000⟩ _ rfl _ events _ hrun
    (asleep_singleton hsleeps) _ false (Multiset.mem_singleton_self _) hsleeps
  cases hp
  rcases hreason with hfull | ⟨u, hu, o, ho, -⟩
  · rw [hrunning] at hfull
    cases hfull
  · rw [List.mem_singleton.1 hu, hfree] at ho
    cases ho

/-- The third session's query was overlooked, and the first session's query runs. -/
theorem parked_for_reason_overlooked :
    let service := Service.ofSettings ⟨3, 4, 4, .ofNanos 30000⟩
    let index := (ViewIndex.empty.register 1 [30]).register 2 [10]
    ∃ events t, Run Activity.isCall (ofService service index) events t ∧ t.Asleep ∧
      t.world.service.running = 1 ∧ Overlooked (ofService service index) events t ⟨3, 1⟩ [10] ∧
      ∃ s ∈ t.world.sessions, ∃ q, s.id ≠ 3 ∧ s.active = some q ∧
        t.world.service.status? q.key = some .running := by
  intro service index
  have hb : Service.build ⟨3, 4, 4, .ofNanos 30000⟩ = .ok service := rfl
  obtain ⟨events, w, hrun, hsleeps, hrunning, hfree⟩ := run_overlooked
  have hasleep : Asleep ⟨w, {.start _ false}⟩ := asleep_singleton hsleeps
  refine ⟨events, _, hrun, hasleep, hrunning, ?_⟩
  obtain ⟨key, a, hp, hreason⟩ :=
    parked_for_reason hb hrun hasleep (Multiset.mem_singleton_self _) hsleeps
  cases hp
  rcases hreason with hfull | ⟨u, hu, o, ho, -⟩ | hover
  · rw [hrunning] at hfull
    cases hfull
  · rw [List.mem_singleton.1 hu, hfree] at ho
    cases ho
  · exact hover

end Traffic

end QueryAdmission
