import QueryAdmission.Proofs.Traffic

/-!
# What overlapping starts lose

When starts of one session overlap, each of them may be admitted, and the one that installs its
query last puts it in the place of the others. Their tables are then in nobody's charge: no end and
no abort gives them back (`Traffic.overlapping_starts_leak`). This is all that is lost. Whatever
starts overlap, a session that was closed has no records, and a table that it still owns was locked
for a query that was active when another one was installed (`Traffic.owner_overwritten`).
-/

namespace QueryAdmission

/-! ### Sections keep track of what the session owns -/

section Account

variable {u : TableId}

/-- What its session owns after a contact is in the hands of the pass, or was in somebody else's
charge before. -/
lemma LockPass.Contact.in_charge {s : SessionId} {l l' : LockTable} {p p' : LockPass}
    (h : p.Contact s l l' p') (ho : l'.owner u = some s) :
    u ∈ p'.taken ∨ l.owner u = some s ∧ u ∉ p.taken := by
  have proceed (left taken : List TableId) : u ∈ (proceed left taken).taken ↔ u ∈ taken := by
    rw [← List.count_pos_iff, count_taken_proceed, List.count_pos_iff]
  cases h with
  | @skipped t left taken =>
    rw [proceed]
    exact (Decidable.em (u ∈ taken)).imp_right fun hn => ⟨ho, hn⟩
  | @asked t left taken => exact (Decidable.em (u ∈ taken)).imp_right fun hn => ⟨ho, hn⟩
  | @locked t left taken =>
    rw [proceed, List.mem_cons]
    rw [LockTable.owner_attempt] at ho
    split_ifs at ho with hu
    · exact .inl (.inl hu.1)
    · by_cases hm : u ∈ taken
      · exact .inl (.inr hm)
      · exact .inr ⟨ho, hm⟩
  | @refused t left taken =>
    rw [taken_undo]
    exact (Decidable.em (u ∈ taken)).imp_right fun hn => ⟨ho, hn⟩
  | @returned t refused left =>
    rw [taken_undo]
    rw [LockTable.owner_unlock] at ho
    split_ifs at ho with hu
    have hne : u ≠ t := by
      rintro rfl
      exact hu ⟨rfl, ho⟩
    refine (Decidable.em (u ∈ left)).imp_right fun hn => ⟨ho, ?_⟩
    exact List.not_mem_cons_of_ne_of_not_mem hne hn

/-- A table that was given back is not the session's any more. -/
lemma LockTable.in_charge_unlock {l : LockTable} {s : SessionId} {t : TableId} {ts : List TableId}
    (ho : (l.unlock s t).owner u = some s) : u ∈ ts ∨ l.owner u = some s ∧ u ∉ t :: ts := by
  have h : (LockPass.undoing t ts t).Contact s l (l.unlock s t) (.undo t ts) := .returned
  have hc := h.in_charge ho
  rwa [LockPass.taken_undo] at hc

lemma Admission.Move.in_charge {w w' : World MemoryHost} {a : Admission}
    {p : Progress Admission (Except Refusal (List TableId))} (h : a.Move w w' p)
    (ho : w'.host.locks.owner u = some a.key.session) :
    u ∈ keeps p ∨ w.host.locks.owner u = some a.key.session ∧ u ∉ a.taken := by
  cases h with
  | gone hp | granted hp | queued hp | called hp | slept hp | departed hp | retreated hp
  | failed hp =>
    right
    refine ⟨ho, ?_⟩
    simp [taken, hp, LockPass.taken]
  | contact hp hc =>
    have hc := hc.in_charge ho
    simpa only [keeps, taken, hp, inPhase] using hc
  | @began tables hp =>
    have ht : a.taken = tables := by simp [taken, hp, LockPass.taken]
    rw [ht]
    exact (Decidable.em (u ∈ tables)).imp_right fun hn => ⟨ho, hn⟩
  | @lost tables hp =>
    have ht : a.taken = tables := by simp [taken, hp, LockPass.taken]
    rw [ht]
    refine (Decidable.em (u ∈ tables)).imp ?_ fun hn => ⟨ho, hn⟩
    exact List.mem_reverse.2
  | @returned t ts hp =>
    have ht : a.taken = t :: ts := by simp [taken, hp]
    rw [ht]
    exact LockTable.in_charge_unlock ho

/-- A start is about to install its query in a session where another one is active that has a table
which the start's own query does not have. -/
def Start.Overwrites (s : Session) (c : Start) (u : TableId) : Prop :=
  ∃ key locked, c.phase = .installing key locked ∧ u ∈ s.lockedTables ∧ u ∉ locked

variable {w w' : World MemoryHost} {s s' : Session}

lemma Start.Move.in_charge {c : Start} {p : Progress Start (Except Refusal (Option QueryKey))}
    (h : c.Move w s w' s' p) (hc : c.Coherent) (ho : w'.host.locks.owner u = some c.session) :
    u ∈ s'.lockedTables ∨ u ∈ p.call?.elim [] taken ∨ c.Overwrites s u ∨
      w.host.locks.owner u = some c.session ∧ u ∉ s.lockedTables ∧ u ∉ c.taken := by
  by_cases hs : u ∈ s.lockedTables
  · -- The session's state has it, and hands it on or loses it.
    cases h with
    | barred | ignored | returned | finished | asked | registered | refused | admission | approved
    | denied | unlocked | failed => exact .inl hs
    | entered =>
      refine .inr (.inl ?_)
      rcases ha : s.active with _ | q
      · rw [Session.lockedTables_of_none ha] at hs
        cases hs
      · simpa [Progress.call?, taken, inPhase, Phase.afterEntry, Session.lockedTables, ha] using hs
    | @installed key locked hp =>
      by_cases hu : u ∈ locked
      · exact .inl hu
      · exact .inr (.inr (.inl ⟨key, locked, hp, hs, hu⟩))
  · cases h with
    | barred =>
      refine (Decidable.em (u ∈ c.taken)).elim (fun hu => .inr (.inl hu)) fun hu => ?_
      exact .inr (.inr (.inr ⟨ho, hs, hu⟩))
    | ignored hp | entered hp | finished hp | asked hp | registered hp | refused hp | failed hp =>
      refine .inr (.inr (.inr ⟨ho, hs, ?_⟩))
      simp [taken, hp]
    | @returned key stale t ts hp | @unlocked key t ts hp =>
      have ht : c.taken = t :: ts := by simp [taken, hp]
      rw [ht]
      rcases LockTable.in_charge_unlock ho with hu | hu
      · exact .inr (.inl hu)
      · exact .inr (.inr (.inr ⟨hu.1, hs, hu.2⟩))
    | @admission key a p w' hp hm =>
      have ht : c.taken = a.taken := by simp [taken, hp]
      have hk := hc.native.session_admission hp
      rw [taken_relay, ht, ← hk]
      rw [← hk] at ho
      rcases hm.in_charge ho with hu | hu
      · exact .inr (.inl hu)
      · exact .inr (.inr (.inr ⟨hu.1, hs, hu.2⟩))
    | @approved key locked hp | @denied key locked hp | @installed key locked hp =>
      have ht : c.taken = locked := by simp [taken, hp]
      rw [ht]
      by_cases hu : u ∈ locked
      · simp [Progress.call?, taken, inPhase, hu]
      · exact .inr (.inr (.inr ⟨ho, hs, hu⟩))

lemma Finish.Move.in_charge {c : Finish} {p : Progress Finish Unit} (h : c.Move w s w' s' p)
    (ho : w'.host.locks.owner u = some c.session) :
    u ∈ s'.lockedTables ∨ u ∈ p.call?.elim [] taken ∨
      w.host.locks.owner u = some c.session ∧ u ∉ s.lockedTables ∧ u ∉ c.taken := by
  by_cases hs : u ∈ s.lockedTables
  · cases h with
    | barred | idle | returned | completed => exact .inl hs
    | took _ _ ha =>
      refine .inr (.inl ?_)
      simpa [Progress.call?, taken, Session.lockedTables, ha] using hs
  · cases h with
    | barred =>
      refine (Decidable.em (u ∈ c.taken)).elim (fun hu => .inr (.inl hu)) fun hu => ?_
      exact .inr (.inr ⟨ho, hs, hu⟩)
    | idle hp | took hp | completed hp =>
      refine .inr (.inr ⟨ho, hs, ?_⟩)
      simp [taken, hp]
    | @returned t ts hp =>
      have ht : c.taken = t :: ts := by simp [taken, hp]
      rw [ht]
      rcases LockTable.in_charge_unlock ho with hu | hu
      · exact .inr (.inl hu)
      · exact .inr (.inr ⟨hu.1, hs, hu.2⟩)

lemma Abort.Move.in_charge {c : Abort} {p : Progress Abort Unit} (h : c.Move w s w' s' p)
    (ho : w'.host.locks.owner u = some c.session) :
    u ∈ s'.lockedTables ∨ u ∈ p.call?.elim [] taken ∨
      w.host.locks.owner u = some c.session ∧ u ∉ s.lockedTables ∧ u ∉ c.taken := by
  by_cases hs : u ∈ s.lockedTables
  · cases h with
    | barred | returned | swept => exact .inl hs
    | took => exact .inr (.inl (List.mem_reverse.2 hs))
  · cases h with
    | barred =>
      refine (Decidable.em (u ∈ c.taken)).elim (fun hu => .inr (.inl hu)) fun hu => ?_
      exact .inr (.inr ⟨ho, hs, hu⟩)
    | took hp | swept hp =>
      refine .inr (.inr ⟨ho, hs, ?_⟩)
      simp [taken, hp]
    | @returned t ts hp =>
      have ht : c.taken = t :: ts := by simp [taken, hp]
      rw [ht]
      rcases LockTable.in_charge_unlock ho with hu | hu
      · exact .inr (.inl hu)
      · exact .inr (.inr ⟨hu.1, hs, hu.2⟩)

/-- An activity is about to install a query in place of another one that has the table. -/
def Activity.Overwrites (s : Session) (u : TableId) : Activity → Prop
  | start c _ => c.Overwrites s u
  | _ => False

/-- What the session owns after a section is in the charge of the session's state or of the
activity, unless it was lost, or was in somebody else's charge before. -/
lemma Activity.Move.in_charge {a : Activity} {a' : Option Activity} (h : a.Move w s w' s' a')
    (ha : a.FitsRoster w) (ho : w'.host.locks.owner u = some a.session) :
    u ∈ s'.lockedTables ∨ u ∈ a'.elim [] taken ∨ a.Overwrites s u ∨
      w.host.locks.owner u = some a.session ∧ u ∉ s.lockedTables ∧ u ∉ a.taken := by
  cases h with
  | start h =>
    rw [elim_ofStart taken [] fun _ h => h.taken]
    exact h.in_charge ha.coherent ho
  | finish h =>
    rw [elim_ofCall]
    exact (h.in_charge ho).imp_right (.imp_right .inr)
  | abort h =>
    rw [elim_ofCall]
    exact (h.in_charge ho).imp_right (.imp_right .inr)
  | @bracket a a' f hl hl' hf =>
    obtain ⟨n, v, h⟩ := hf s
    rw [h, hl.taken]
    by_cases hs : u ∈ s.lockedTables
    · exact .inl hs
    · exact .inr (.inr (.inr ⟨ho, hs, List.not_mem_nil⟩))

end Account

namespace Traffic

/-! ### Runs without a discipline -/

/-- The discipline that allows everything. -/
def anyKind (_ : Activity) : Bool := false

variable {t t₀ : Traffic} {events : List Event} {lost lost' : SessionId → TableId → Prop}
  {id : SessionId} {u : TableId}

lemma oneByOne_anyKind (t : Traffic) : t.OneByOne anyKind := by
  have h : t.underway.filter (anyKind · = true) = 0 :=
    Multiset.filter_eq_nil.2 fun a _ => Bool.false_ne_true
  rw [OneByOne, h]
  exact Multiset.nodup_zero

/-- Every table that a session owns is in the charge of its state, or of something that goes on in
it, or it was lost. -/
def InCharge (lost : SessionId → TableId → Prop) (t : Traffic) : Prop :=
  ∀ id u, t.world.host.locks.owner u = some id →
    (∃ s, t.world.session? id = some s ∧ u ∈ s.lockedTables) ∨
      (∃ a ∈ t.within id, u ∈ a.taken) ∨ lost id u

lemma inCharge_ofService (service : Service) (index : ViewIndex) :
    InCharge lost (ofService service index) := by
  intro id u ho
  cases ho

lemma InCharge.mono (h : InCharge lost t) (hl : ∀ id u, lost id u → lost' id u) :
    InCharge lost' t := by
  intro id u ho
  exact (h id u ho).imp_right (.imp_right (hl id u))

/-- What changes neither sessions nor tables leaves everything in charge. -/
lemma InCharge.congr (h : InCharge lost t) {w : World MemoryHost} {acts : Multiset Activity}
    (hs : w.sessions = t.world.sessions) (hl : w.host.locks = t.world.host.locks)
    (ha : t.underway ≤ acts) : InCharge lost ⟨w, acts⟩ := by
  intro id u ho
  have ho : w.host.locks.owner u = some id := ho
  rw [hl] at ho
  rcases h id u ho with ⟨s, hid, hu⟩ | ⟨a, hm, hu⟩ | hu
  · refine .inl ⟨s, ?_, hu⟩
    show w.sessions.find? _ = _
    rw [hs]
    exact hid
  · exact .inr (.inl ⟨a, Multiset.mem_of_le (Multiset.filter_le_filter _ ha) hm, hu⟩)
  · exact .inr (.inr hu)

lemma InCharge.openSession (h : InCharge lost t) (hp : t.Proper) (kind : Session.Kind) :
    InCharge lost ⟨(t.world.openSession kind).2, t.underway⟩ := by
  intro id u ho
  refine (h id u ho).imp_left ?_
  rintro ⟨s, hid, hu⟩
  refine ⟨s, ?_, hu⟩
  show (t.world.openSession kind).2.session? id = some s
  rw [hp.session?_openSession, if_neg]
  · exact hid
  · rintro rfl
    rw [hp.session?_new] at hid
    cases hid

section Move

variable {a : Activity} {a' : Option Activity} {rest : Multiset Activity} {s s' : Session}
  {w : World MemoryHost}

/-- A section leaves everything in charge but what it overwrites. -/
lemma InCharge.move (h : InCharge lost t) (hp : t.Proper) (ha : t.underway = a ::ₘ rest)
    (hs : t.world.session? a.session = some s) (hm : a.Move t.world s w s' a')
    (hl : ∀ u, a.Overwrites s u → lost a.session u) :
    InCharge lost ⟨w, Activity.after a' rest⟩ := by
  intro id u ho
  have ho : w.host.locks.owner u = some id := ho
  show (∃ s, w.session? id = some s ∧ _) ∨
    (∃ b ∈ Activity.ofSession id (Activity.after a' rest), _) ∨ _
  by_cases hne : id = a.session
  · subst hne
    rw [hm.session?_eq hs, Activity.ofSession_after fun b hb => (hm.same hb).1]
    have hfits := (hp.regular_cons ha hs).fitsRoster a (Multiset.mem_cons_self _ _)
    rcases hm.in_charge hfits ho with hu | hu | hu | ⟨ho, hns, hnt⟩
    · exact .inl ⟨s', rfl, hu⟩
    · cases a' with
      | none => cases hu
      | some b => exact .inr (.inl ⟨b, Activity.mem_after.2 (.inl rfl), hu⟩)
    · exact .inr (.inr (hl u hu))
    · -- Somebody else was in charge, and still is.
      rcases h a.session u ho with ⟨s₁, hs₁, hu⟩ | ⟨b, hb, hu⟩ | hu
      · rw [hs] at hs₁
        cases hs₁
        exact absurd hu hns
      · rw [within, ha, Activity.ofSession_cons rfl] at hb
        rcases Multiset.mem_cons.1 hb with rfl | hb
        · exact absurd hu hnt
        · exact .inr (.inl ⟨b, Activity.mem_after.2 (.inr hb), hu⟩)
      · exact .inr (.inr hu)
  · obtain ⟨hu, hown, -⟩ := hp.others ha hs hm hne
    rw [hm.session?_ne hne, hu]
    exact h id u ((hown u).1 ho)

/-- A session that has no active query, and in which nothing goes on, may be forgotten. -/
lemma InCharge.forget (h : InCharge lost t) (hs : t.world.session? id = some s)
    (ha : s.active = none) : InCharge lost ⟨t.world.forget id, t.underway⟩ := by
  intro other u ho
  rcases h other u ho with ⟨s₁, hs₁, hu⟩ | hu
  · refine .inl ⟨s₁, ?_, hu⟩
    show (t.world.forget id).session? other = some s₁
    rw [World.session?_forget, if_neg]
    · exact hs₁
    · rintro rfl
      rw [hs] at hs₁
      cases hs₁
      rw [Session.lockedTables_of_none ha] at hu
      cases hu
  · exact .inr hu

lemma InCharge.advance (h : InCharge lost t) (hp : t.Proper) (ha : t.underway = a ::ₘ rest)
    (hl : ∀ s u, t.world.session? a.session = some s → a.Overwrites s u → lost a.session u) :
    InCharge lost (t.advance a rest) := by
  have hmem : a ∈ t.underway := by
    rw [ha]
    exact Multiset.mem_cons_self a rest
  obtain ⟨s, hs⟩ := hp.session?_of_mem hmem
  obtain ⟨s', hm⟩ := Activity.move_advance hs
  have hc := h.move hp ha hs hm fun u => hl s u hs
  rcases t.advance_eq a rest with he | ⟨hn, hcl, he⟩
  · rw [he]
    exact hc
  · rw [hn] at hc hm
    rw [he]
    exact hc.forget (hm.session?_eq hs) (hp.closing ha hs hm hcl).2.1

end Move

/-! ### What was lost in a run -/

/-- At some moment of a run, a query of the session was active that had the table, and another query
that did not have it was installed in its place. -/
def Lost (t₀ : Traffic) (events : List Event) (id : SessionId) (u : TableId) : Prop :=
  ∃ before after t a s, events = before ++ .advanced a :: after ∧ Run anyKind t₀ before t ∧
    a.session = id ∧ t.world.session? id = some s ∧ a.Overwrites s u

lemma Lost.snoc (h : Lost t₀ events id u) (e : Event) : Lost t₀ (events ++ [e]) id u := by
  obtain ⟨before, after, t, a, s, rfl, ht⟩ := h
  exact ⟨before, after ++ [e], t, a, s, by simp, ht⟩

lemma Run.inCharge (hp : t₀.Proper) (hc : InCharge (Lost t₀ []) t₀)
    (h : Run anyKind t₀ events t) : InCharge (Lost t₀ events) t := by
  induction h with
  | nil => exact hc
  | @snoc events t t' e h hs _ ih =>
    have ih : InCharge (Lost t₀ (events ++ [e])) t := ih.mono fun id u hl => hl.snoc e
    have hpt := h.proper hp
    cases hs with
    | opened kind => exact ih.openSession hpt kind
    | begun => exact ih.congr rfl rfl (Multiset.le_cons_self _ _)
    | @advanced a rest ha =>
      refine ih.advance hpt ha fun s u hs hu => ?_
      exact ⟨events, [], t, a, s, rfl, h, rfl, hs, hu⟩
    | raised signal =>
      cases signal with
      | session | token | unshared => exact ih.congr rfl rfl (le_refl _)
    | shutDown | indexed => exact ih.congr rfl rfl (le_refl _)

/-- Whatever starts overlap: when a session is not open any more, it has no records, and a table
that it owns nevertheless was locked for a query of it that was active when a start installed
another one without it. -/
theorem owner_overwritten {settings : Settings} {service : Service}
    (hb : Service.build settings = .ok service) {index : ViewIndex}
    (hrun : Run anyKind (ofService service index) events t) (hn : t.world.session? id = none) :
    (∀ r ∈ t.world.service.records, r.key.session ≠ id) ∧
      ∀ u, t.world.host.locks.owner u = some id → Lost (ofService service index) events id u := by
  have hp := hrun.proper (proper_ofService hb index)
  obtain ⟨hu, hk⟩ := hp.absent id hn
  refine ⟨?_, fun u ho => ?_⟩
  · intro r hr hs
    have hst := (Roster.status?_eq_some_iff hp.sound.keys_nodup).2 ⟨r, hr, rfl, rfl⟩
    rw [show t.world.service.schedule.roster.status? r.key = none from hk r.key hs] at hst
    cases hst
  · have hc := hrun.inCharge (proper_ofService hb index) (inCharge_ofService service index)
    rcases hc id u ho with ⟨s, hs, -⟩ | ⟨a, ha, -⟩ | hl
    · rw [hn] at hs
      cases hs
    · rw [hu] at ha
      exact absurd ha (Multiset.notMem_zero a)
    · exact hl

/-- Two overlapping starts of one session, on tables of their own. The second one is installed while
the first one surveys; then the first one is installed in its place, and the session is closed. -/
lemma run_overlapping :
    let service := Service.ofSettings ⟨2, 4, 4, .ofNanos 30000⟩
    let index := (ViewIndex.empty.register 1 [10]).register 2 [20]
    ∃ events t, Run anyKind (ofService service index) events t ∧ t.underway = 0 ∧
      t.world.session? 1 = none ∧ t.world.host.locks.owner 20 = some 1 := by
  intro service index
  let first : Activity := .start (.ofQuery 1 ⟨"select", 1, [1], false, false⟩) false
  let second : Activity := .start (.ofQuery 1 ⟨"select", 2, [2], false, false⟩) false
  have hb : Service.build ⟨2, 4, 4, .ofNanos 30000⟩ = .ok service := rfl
  have hp := proper_ofService hb index
  have hsort (a b : Activity) (w : World MemoryHost) (_ : True)
      (_ : (a.advance w).2.call? = some b) : True ∧ (anyKind b → anyKind a) := ⟨trivial, id⟩
  let opened := ((ofService service index).world.openSession .backend).2
  have h₁ : Run anyKind (ofService service index) _ ⟨opened, 0⟩ :=
    .snoc .nil (.opened .backend) (oneByOne_anyKind _)
  have h₂ := h₁.begin (a := first) rfl (by decide) (by simp) (oneByOne_anyKind _)
  -- The first one has entered the session and is about to ask for the tables of its view.
  have h₃ := h₂.sections hp rfl hsort 1 trivial rfl
  let entered := sections 1 opened first
  let surveying : Activity :=
    .start ⟨1, ⟨"select", 1, [1], false, false⟩, .surveying ⟨1, 1⟩ ⟨[1], []⟩⟩ false
  have hsur : entered.2 = some surveying := by decide +kernel
  change Run _ _ _ ⟨entered.1, Activity.after entered.2 0⟩ at h₃
  rw [hsur] at h₃
  have h₄ := h₃.begin (a := second) rfl (by decide +kernel) (by decide +kernel) (oneByOne_anyKind _)
  have h₅ := h₄.sections hp rfl hsort 12 trivial rfl
  let installed := sections 12 entered.1 second
  have hin : installed.2 = none := by decide +kernel
  change Run _ _ _ ⟨installed.1, Activity.after installed.2 {surveying}⟩ at h₅
  rw [hin] at h₅
  let overwritten := sections 12 installed.1 surveying
  have hov : overwritten.2 = none := by decide +kernel
  have h₆ : Run anyKind (ofService service index) _
      ⟨overwritten.1, Activity.after overwritten.2 0⟩ :=
    Run.sections hp rfl hsort 12 trivial rfl h₅
  rw [hov] at h₆
  let closing : Activity := .abort (.ofSession 1) true
  let releasing : Activity := .abort ⟨1, .releasing [10]⟩ true
  let sweeping : Activity := .abort ⟨1, .releasing []⟩ true
  let t₁ : Traffic := ⟨overwritten.1, {closing}⟩
  let t₂ := t₁.advance closing 0
  let t₃ := t₂.advance releasing 0
  let t₄ := t₃.advance sweeping 0
  have hopen : overwritten.1.session? 1 ≠ none := by decide +kernel
  have hu₂ : t₂.underway = {releasing} := by decide +kernel
  have hu₃ : t₃.underway = {sweeping} := by decide +kernel
  have hu₄ : t₄.underway = 0 := by decide +kernel
  have hclosed : t₄.world.session? 1 = none := by decide +kernel
  have howns : t₄.world.host.locks.owner 20 = some 1 := by decide +kernel
  clear_value overwritten installed entered opened
  have h₇ : Run anyKind (ofService service index) _ t₁ :=
    h₆.begin (a := closing) rfl hopen (by simp) (oneByOne_anyKind _)
  have h₈ : Run anyKind (ofService service index) _ t₂ :=
    h₇.snoc (.advanced rfl) (oneByOne_anyKind _)
  have h₉ : Run anyKind (ofService service index) _ t₃ :=
    h₈.snoc (.advanced hu₂) (oneByOne_anyKind _)
  have h : Run anyKind (ofService service index) _ t₄ :=
    h₉.snoc (.advanced hu₃) (oneByOne_anyKind _)
  exact ⟨_, t₄, h, hu₄, hclosed, howns⟩

/-- Not everything that a session locked is given back when it is closed, if its starts may overlap.
-/
theorem overlapping_starts_leak :
    ¬∀ settings service, Service.build settings = .ok service →
      ∀ index events t, Run anyKind (ofService service index) events t → t.underway = 0 →
        ∀ id, t.world.session? id = none → ∀ u, t.world.host.locks.owner u ≠ some id := by
  intro h
  obtain ⟨events, t, hrun, hu, hn, ho⟩ := run_overlapping
  exact h ⟨2, 4, 4, .ofNanos 30000⟩ _ rfl _ events t hrun hu 1 hn 20 ho

/-- The table of the second one of two overlapping starts was locked for a query that was active
when the first one was installed. -/
theorem owner_overwritten_of_two :
    let service := Service.ofSettings ⟨2, 4, 4, .ofNanos 30000⟩
    let index := (ViewIndex.empty.register 1 [10]).register 2 [20]
    ∃ events t, Run anyKind (ofService service index) events t ∧ t.world.session? 1 = none ∧
      t.world.host.locks.owner 20 = some 1 ∧ (∀ r ∈ t.world.service.records, r.key.session ≠ 1) ∧
      Lost (ofService service index) events 1 20 := by
  intro service index
  have hb : Service.build ⟨2, 4, 4, .ofNanos 30000⟩ = .ok service := rfl
  obtain ⟨events, t, hrun, -, hn, ho⟩ := run_overlapping
  obtain ⟨hrecords, hlost⟩ := owner_overwritten hb hrun hn
  exact ⟨events, t, hrun, hn, ho, hrecords, hlost 20 ho⟩

end Traffic

end QueryAdmission
