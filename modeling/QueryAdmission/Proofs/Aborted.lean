import QueryAdmission.Proofs.Overlap

/-!
# Starts whose transaction is aborted

An abort may come at any moment while a start is in admission: between two looks for its record,
before any contact of a lock pass, between a retreat and the next look. It sweeps the record away,
and the start only notices later, and not always in the same way. But it always does
(`Traffic.aborted_start`): after a bounded number of sections of its own it is refused because it
was aborted, it never succeeds, and then the session has no record, no active query, and none of the
tables that the start took.

A start is followed among all other traffic (`Traffic.Course`), in which the session has no other
start. What carries the proof is that every section of a start without a record leads nearer to its
end (`Admission.patience`), and that of all the tables that the start ever took, the session owns
only those that the start has in its hands (`Traffic.Undisturbed`).
-/

namespace QueryAdmission

/-! ### Admissions without a record -/

namespace LockPass

variable {s : SessionId} {l l' : LockTable} {p p' : LockPass}

/-- How many sections are left at most to an admission in this lock pass, when its record is gone:
the rest of the pass, and then either a look for the record, or giving back what was taken. -/
def patience : LockPass → Nat
  | asking _ left taken => 3 * left.length + taken.length + 5
  | attempting _ left taken => 3 * left.length + taken.length + 4
  | undoing _ left _ => left.length + 3
  | took tables => tables.length + 2
  | refusedAt _ => 2

lemma patience_proceed (left taken : List TableId) :
    (proceed left taken).patience = 3 * left.length + taken.length + 2 := by
  cases left with
  | nil => simp [proceed, patience]
  | cons t ts =>
    simp only [proceed, patience, List.length_cons]
    omega

lemma patience_undo (refused : TableId) (taken : List TableId) :
    (undo refused taken).patience = taken.length + 2 := by
  cases taken <;> rfl

lemma Contact.patience_lt (h : Contact s l p l' p') : p'.patience < p.patience := by
  cases h with
  | skipped =>
    rw [patience_proceed, patience]
    omega
  | asked =>
    rw [patience, patience]
    omega
  | locked =>
    rw [patience_proceed, patience, List.length_cons]
    omega
  | refused =>
    rw [patience_undo, patience]
    omega
  | returned =>
    rw [patience_undo, patience]
    omega

end LockPass

namespace Admission

variable {w w' : World MemoryHost} {a a' : Admission}
  {p : Progress Admission (Except Refusal (List TableId))}

/-- How many sections are left at most to an admission whose record is gone. -/
def patience (a : Admission) : Nat :=
  match a.phase with
  | .waiting ⟨_, _, _, .looking⟩ | .waiting ⟨_, _, _, .leaving _⟩ => 1
  | .waiting ⟨_, _, _, .pondering⟩ => 2
  | .locking pass => pass.patience
  | .undoing left => left.length + 1

/-- In the middle of a look for the record: the query was found waiting, and the reasons to leave
are about to be looked at. -/
def MidPoll (a : Admission) : Prop := ∃ wait, a.phase = .waiting wait ∧ wait.phase ≠ .looking

lemma not_found {c : Wait} {sight : Sight} {service : Service}
    (hl : w.service.look c.key = (sight, service)) (hs : sight ≠ .gone)
    (hn : w.service.status? c.key = none) : False := by
  obtain ⟨status, hst, -⟩ := w.service.look_found c.key hl hs
  have hk := w.service.kept_look c.key c.key
  rw [hl, hn] at hk
  rw [hk.eq_none.2 rfl] at hst
  cases hst

/-- Without a record, an admission comes nearer to its end with every section. -/
lemma Move.patience_lt (h : Move w a w' p)
    (hc : ∀ wait, a.phase = .waiting wait → wait.key = a.key)
    (hn : w.service.status? a.key = none) (hp : p.call? = some a') :
    a'.patience < a.patience ∧ (a'.MidPoll → a.MidPoll) := by
  cases h with
  | gone | departed | began | failed => cases hp
  | granted hq _ hl | queued hq _ hl =>
    rw [← hc _ hq] at hn
    exact (not_found hl (by simp) hn).elim
  | @called c why hq hw | @slept c hq hw =>
    cases hp
    obtain ⟨_, _, _, phase⟩ := c
    obtain rfl : phase = .pondering := hw
    refine ⟨?_, fun _ => ⟨_, hq, by simp⟩⟩
    simp [patience, hq, inPhase]
  | contact hq hw =>
    cases hp
    refine ⟨?_, ?_⟩
    · simpa only [patience, hq, inPhase] using hw.patience_lt
    · rintro ⟨_, ⟨⟩, -⟩
  | @lost tables hq =>
    cases hp
    refine ⟨?_, ?_⟩
    · simp only [patience, hq, inPhase, LockPass.patience, List.length_reverse]
      omega
    · rintro ⟨_, ⟨⟩, -⟩
  | retreated hq =>
    cases hp
    refine ⟨?_, ?_⟩
    · simp [patience, hq, inPhase, Wait.ofKey, LockPass.patience]
    · rintro ⟨_, ⟨⟩, hw⟩
      exact absurd rfl hw
  | @returned t ts hq =>
    cases hp
    refine ⟨?_, ?_⟩
    · simp [patience, hq, inPhase]
    · rintro ⟨_, ⟨⟩, -⟩

/-- Without a record, an admission is refused in the end: because it was aborted, unless it is in
the middle of a look and leaves by itself. -/
lemma Move.refused (h : Move w a w' p) (hc : ∀ wait, a.phase = .waiting wait → wait.key = a.key)
    (hn : w.service.status? a.key = none) {r : Except Refusal (List TableId)} (hp : p = .done r) :
    r = .error (.aborted a.key) ∨
      a.MidPoll ∧ ∃ why : Departure, r = .error (why.refusal a.key) := by
  cases h with
  | granted | queued | called | slept | contact | lost | retreated | returned => cases hp
  | gone hq =>
    cases hp
    rw [hc _ hq]
    exact .inl rfl
  | @departed c why hq hw =>
    cases hp
    refine .inr ⟨⟨c, hq, ?_⟩, why, ?_⟩
    · rw [hw]
      simp
    · rw [hc _ hq]
  | began _ hs => exact absurd hn hs
  | failed =>
    cases hp
    exact .inl rfl

lemma one_le_patience (a : Admission) : 1 ≤ a.patience := by
  rw [patience]
  split
  · exact Nat.le_refl _
  · exact Nat.le_refl _
  · exact Nat.le_succ 1
  · next pass _ => cases pass <;> simp only [LockPass.patience] <;> omega
  · exact Nat.succ_le_succ (Nat.zero_le _)

end Admission

/-! ### Sections beside and of a start -/

namespace Start

variable {w w' : World MemoryHost} {s s' : Session} {c c' : Start} {u : TableId}
  {p : Progress Start (Except Refusal (Option QueryKey))}

/-- In admission, the sections of a start are those of its admission. -/
lemma Move.admission_of (h : c.Move w s w' s' p) {key : QueryKey} {a : Admission}
    (hp : c.phase = .admitting key a) : ∃ p', a.Move w w' p' ∧ s' = s ∧ p = c.relay key p' := by
  cases h with
  | admission hq hm =>
    rw [hp] at hq
    cases hq
    exact ⟨_, hm, rfl, rfl⟩
  | barred hq =>
    rcases hq with hq | ⟨_, _, hq⟩ <;> rw [hp] at hq <;> cases hq
  | ignored hq | entered hq | returned hq | finished hq | asked hq | registered hq | refused hq
  | approved hq | denied hq | installed hq | unlocked hq | failed hq =>
    rw [hp] at hq
    cases hq

/-- A start that is refused makes no query the active one. -/
lemma Move.active_of_refused (h : c.Move w s w' s' p) {r : Refusal} (hp : p = .done (.error r))
    (hs : s.active = none) : s'.active = none := by
  cases h with
  | barred | ignored | returned | finished | asked | registered | refused | unlocked | admission
  | approved | denied | failed => exact hs
  | entered => rfl
  | installed => cases hp

/-- While a start goes on, a table that the session owns and that nobody else is in charge of stays
in the start's hands. -/
lemma Move.keeps (h : c.Move w s w' s' p) (hc : c.Coherent) (hp : p.call? = some c')
    (hv : c.phase ≠ .entering → s.active = none)
    (hg : w.host.locks.owner u = some c.session → u ∈ c.taken)
    (ho : w'.host.locks.owner u = some c.session) : u ∈ c'.taken := by
  by_cases hq : c.phase = .entering
  · -- Nothing is in its hands at first, and the session comes to own nothing.
    have hnil : c.taken = [] := by rw [taken, hq]
    have hsame : w'.host.locks = w.host.locks := by
      cases h with
      | barred | ignored | entered => rfl
      | returned hq' | finished hq' | asked hq' | registered hq' | refused hq' | unlocked hq'
      | admission hq' | approved hq' | denied hq' | installed hq' | failed hq' =>
        exact absurd (hq.symm.trans hq') (by simp)
    rw [hsame] at ho
    rw [hnil] at hg
    cases hg ho
  · have hs := Session.lockedTables_of_none (hv hq)
    have hcharge := h.in_charge hc ho
    rw [hp] at hcharge
    rcases hcharge with hu | hu | ⟨_, _, _, hu, -⟩ | ⟨ho, -, hu⟩
    · have hs' : s'.active = none := h.vacant hp hv (h.entered_of hp hq)
      rw [Session.lockedTables_of_none hs'] at hu
      cases hu
    · exact hu
    · rw [hs] at hu
      cases hu
    · exact absurd (hg ho) hu

end Start

/-- A record that is gone does not come back by anything but a start. -/
lemma Activity.Move.status?_eq_none {w w' : World MemoryHost} {s s' : Session} {a : Activity}
    {a' : Option Activity} (h : a.Move w s w' s' a') (ha : a.isStart = false) {k : QueryKey}
    (hn : w.service.status? k = none) : w'.service.status? k = none := by
  cases h with
  | start => cases ha
  | bracket => exact hn
  | @finish c w' s' p h =>
    cases h with
    | barred | idle | took | returned => exact hn
    | completed =>
      have hk := w.service.kept_complete c.key k
      rw [hn, ite_self] at hk
      exact hk.eq_none.2 rfl
  | @abort c closes w' s' p h =>
    cases h with
    | barred | took | returned => exact hn
    | swept =>
      have hk := w.service.kept_sweep k c.session
      rw [hn, ite_self] at hk
      exact hk.eq_none.2 rfl

namespace Traffic

/-! ### A start among other traffic -/

/-- The activity goes on, and there is no other start in its session. -/
def Sole (t : Traffic) (a : Activity) : Prop :=
  ∃ rest, t.underway = a ::ₘ rest ∧ ∀ b ∈ rest, b.session = a.session → b.isStart = false

/-- A start goes on, with other traffic between its own sections; there is no other start in its
session. The start is kept as it was before each of its own sections. -/
inductive Course (executes : Bool) (t₀ : Traffic) (c₀ : Start) :
    List Start → Traffic → Start → Prop
  | nil (h : t₀.Sole (.start c₀ executes)) : Course executes t₀ c₀ [] t₀ c₀
  | other {past : List Start} {t t' : Traffic} {c : Start} {e : Event}
      (h : Course executes t₀ c₀ past t c) (hs : Step t e t')
      (he : e ≠ .advanced (.start c executes)) (hd : t'.Sole (.start c executes)) :
      Course executes t₀ c₀ past t' c
  | own {past : List Start} {t : Traffic} {c c' : Start} {rest : Multiset Activity}
      (h : Course executes t₀ c₀ past t c) (hu : t.underway = .start c executes ::ₘ rest)
      (hc : (c.advance t.world).2.call? = some c') :
      Course executes t₀ c₀ (past ++ [c]) (t.advance (.start c executes) rest) c'

variable {executes : Bool} {t t₀ t' : Traffic} {c c₀ c' : Start} {past : List Start} {e : Event}
  {rest : Multiset Activity}

/-- The next section of a start that goes on. -/
lemma advance_start (hc : (c.advance t.world).2.call? = some c') :
    t.advance (.start c executes) rest
      = ⟨(c.advance t.world).1, .start c' executes ::ₘ rest⟩ := by
  have hp : (Activity.advance t.world (.start c executes)).2.call? = some (.start c' executes) := by
    show (Activity.ofStart c.session executes (c.advance t.world).2).call? = _
    rcases h : (c.advance t.world).2 with c₁ | c₁ | r
    · rw [h] at hc
      cases hc
      rfl
    · rw [h] at hc
      cases hc
      rfl
    · rw [h] at hc
      cases hc
  rw [Traffic.advance]
  simp only [hp]
  rfl

/-- The last section of a start that is refused. -/
lemma advance_refused {r : Refusal} (hc : (c.advance t.world).2 = .done (.error r)) :
    t.advance (.start c executes) rest = ⟨(c.advance t.world).1, rest⟩ := by
  have hp : (Activity.advance t.world (.start c executes)).2.call? = none := by
    show (Activity.ofStart c.session executes (c.advance t.world).2).call? = _
    rw [hc]
    rfl
  rw [Traffic.advance]
  simp only [hp]
  rfl

lemma Course.proper (h : Course executes t₀ c₀ past t c) (hp : t₀.Proper) : t.Proper := by
  induction h with
  | nil => exact hp
  | other _ hs _ _ ih => exact ih.step hs
  | own _ hu _ ih => exact ih.advance hu

/-- A start that goes on is in a session that is open. -/
lemma Proper.start_move (hp : t.Proper) (hu : t.underway = .start c executes ::ₘ rest) :
    ∃ s s', t.world.session? c.session = some s ∧ c.FitsRoster t.world ∧
      c.Move t.world s (c.advance t.world).1 s' (c.advance t.world).2 := by
  have hmem : .start c executes ∈ t.underway := by
    rw [hu]
    exact Multiset.mem_cons_self _ _
  obtain ⟨s, hs⟩ := hp.session?_of_mem hmem
  obtain ⟨s', hm⟩ := Start.move_advance hs
  exact ⟨s, s', hs, (hp.regular_cons hu hs).fitsRoster _ (Multiset.mem_cons_self _ _), hm⟩

lemma Course.sole (h : Course executes t₀ c₀ past t c) (hp : t₀.Proper) :
    t.Sole (.start c executes) ∧ c.session = c₀.session := by
  induction h with
  | nil h => exact ⟨h, rfl⟩
  | other _ _ _ hd ih => exact ⟨hd, ih.2⟩
  | @own past t c c' rest h hu hc ih =>
    obtain ⟨⟨rest', hu', hr⟩, hs⟩ := ih
    obtain rfl : rest' = rest := (Multiset.cons_inj_right _).1 (hu'.symm.trans hu)
    obtain ⟨s, s', -, -, hm⟩ := (h.proper hp).start_move hu
    have hcs : c'.session = c.session := hm.session_eq hc
    rw [advance_start hc]
    refine ⟨⟨_, rfl, fun b hb hbs => ?_⟩, hcs.trans hs⟩
    exact hr b hb (hbs.trans hcs)

/-! ### What stays as it is around a start -/

/-- Around a start that has entered its session, no query is active in it; and of some tables, the
session owns only those that the start has in its hands. -/
structure Undisturbed (took : TableId → Prop) (t : Traffic) (c : Start) : Prop where
  vacant : c.phase ≠ .entering → ∀ s, t.world.session? c.session = some s → s.active = none
  given : ∀ u, took u → t.world.host.locks.owner u = some c.session → u ∈ c.taken

variable {took : TableId → Prop}

/-- What leaves the session's active query and tables alone disturbs nothing. -/
lemma Undisturbed.congr (h : Undisturbed took t c)
    (hs : ∀ s', t'.world.session? c.session = some s' →
      ∃ s, t.world.session? c.session = some s ∧ (s.active = none → s'.active = none))
    (hl : ∀ u, t'.world.host.locks.owner u = some c.session →
      t.world.host.locks.owner u = some c.session) : Undisturbed took t' c where
  vacant hq s' hs' := by
    obtain ⟨s, hs, ha⟩ := hs s' hs'
    exact ha (h.vacant hq s hs)
  given u hu ho := h.given u hu (hl u ho)

/-- A section of something else, which is no start of the session, disturbs nothing. -/
lemma Undisturbed.beside (h : Undisturbed took t c) (hp : t.Proper) {b : Activity}
    {others : Multiset Activity} (hu : t.underway = b ::ₘ others)
    (hb : b.session = c.session → b.isStart = false) :
    Undisturbed took (t.advance b others) c := by
  have hmem : b ∈ t.underway := by
    rw [hu]
    exact Multiset.mem_cons_self _ _
  obtain ⟨s, hs⟩ := hp.session?_of_mem hmem
  obtain ⟨s', hm⟩ := Activity.move_advance hs
  have hw : Undisturbed took
      ⟨(b.advance t.world).1, Activity.after (b.advance t.world).2.call? others⟩ c := by
    by_cases hne : c.session = b.session
    · have hns := hb hne.symm
      refine h.congr ?_ fun u ho => hm.owner_of hns ho
      intro s₁ hs₁
      rw [hne] at hs₁ ⊢
      rw [show World.session? _ _ = _ from hm.session?_eq hs] at hs₁
      cases hs₁
      refine ⟨s, hs, fun ha => hm.active_eq_none ?_ ha⟩
      cases b with
      | start => cases hns
      | entering | inside | finish | utility => exact .inl rfl
      | abort => exact Nat.eq_zero_or_pos _
    · obtain ⟨-, hown, -⟩ := hp.others hu hs hm hne
      refine h.congr ?_ fun u ho => (hown u).1 ho
      intro s₁ hs₁
      rw [show World.session? _ _ = _ from hm.session?_ne hne] at hs₁
      exact ⟨s₁, hs₁, id⟩
  rcases t.advance_eq b others with he | ⟨hn, -, he⟩
  · rw [he]
    exact hw
  · rw [he]
    refine hw.congr ?_ fun u ho => ho
    intro s₁ hs₁
    have hs₁ : ((b.advance t.world).1.forget b.session).session? c.session = some s₁ := hs₁
    rw [World.session?_forget] at hs₁
    split_ifs at hs₁
    exact ⟨s₁, hs₁, id⟩

/-- Whatever else happens while there is no other start in the session disturbs nothing. -/
lemma Undisturbed.step (h : Undisturbed took t c) (hp : t.Proper)
    (ht : t.Sole (.start c executes)) (hs : Step t e t')
    (he : e ≠ .advanced (.start c executes)) : Undisturbed took t' c := by
  cases hs with
  | opened kind =>
    refine h.congr ?_ fun u ho => ho
    intro s hs
    have hs : (t.world.openSession kind).2.session? c.session = some s := hs
    rw [hp.session?_openSession] at hs
    split_ifs at hs with hid
    · obtain ⟨rest, hu, -⟩ := ht
      obtain ⟨s, -, hs, -⟩ := hp.start_move hu
      rw [hid, hp.session?_new] at hs
      cases hs
    · exact ⟨s, hs, id⟩
  | begun => exact h.congr (fun s hs => ⟨s, hs, id⟩) fun u ho => ho
  | @advanced b others hu =>
    refine h.beside hp hu fun hbs => ?_
    obtain ⟨rest, hu', hr⟩ := ht
    have hmem : b ∈ t.underway := by
      rw [hu]
      exact Multiset.mem_cons_self _ _
    rw [hu'] at hmem
    rcases Multiset.mem_cons.1 hmem with rfl | hmem
    · exact absurd rfl he
    · exact hr b hmem hbs
  | raised signal =>
    cases signal with
    | session | token | unshared => exact h.congr (fun s hs => ⟨s, hs, id⟩) fun u ho => ho
  | shutDown | indexed => exact h.congr (fun s hs => ⟨s, hs, id⟩) fun u ho => ho

/-- A section of the start itself, if the start goes on. -/
lemma Undisturbed.own (h : Undisturbed took t c) (hp : t.Proper)
    (hu : t.underway = .start c executes ::ₘ rest) (hc : (c.advance t.world).2.call? = some c') :
    Undisturbed (fun u => took u ∨ u ∈ c.taken) (t.advance (.start c executes) rest) c' := by
  obtain ⟨s, s', hs, hfits, hm⟩ := hp.start_move hu
  have hcs : c'.session = c.session := hm.session_eq hc
  have hv (hq : c.phase ≠ .entering) : s.active = none := h.vacant hq s hs
  rw [advance_start hc]
  constructor
  · intro hq s₁ hs₁
    have hs₁ : (c.advance t.world).1.session? c'.session = some s₁ := hs₁
    rw [hcs, hm.session?_eq hs] at hs₁
    cases hs₁
    exact hm.vacant hc hv hq
  · intro u htook ho
    have ho : (c.advance t.world).1.host.locks.owner u = some c'.session := ho
    rw [hcs] at ho
    refine hm.keeps hfits.coherent hc hv (fun ho => ?_) ho
    exact htook.elim (fun htook => h.given u htook ho) id

lemma Course.undisturbed (h : Course executes t₀ c₀ past t c) (hp : t₀.Proper)
    (h₀ : Undisturbed took t₀ c₀) :
    Undisturbed (fun u => took u ∨ ∃ d ∈ past, u ∈ d.taken) t c := by
  induction h with
  | nil => exact ⟨h₀.vacant, fun u hu ho => h₀.given u (hu.resolve_right (by simp)) ho⟩
  | other h hs he _ ih => exact ih.step (h.proper hp) (h.sole hp).1 hs he
  | @own past t c c' rest h hu hc ih =>
    have h' := ih.own (h.proper hp) hu hc
    refine ⟨h'.vacant, fun u htook ho => h'.given u ?_ ho⟩
    rcases htook with htook | ⟨d, hd, hut⟩
    · exact .inl (.inl htook)
    · rcases List.mem_append.1 hd with hd | hd
      · exact .inl (.inr ⟨d, hd, hut⟩)
      · rw [List.mem_singleton.1 hd] at hut
        exact .inr hut

/-- While there is no other start in the session, a record of it that is gone does not come back
beside the start's own sections. -/
lemma Sole.status?_eq_none (h : t.Sole (.start c executes)) (hp : t.Proper) (hs : Step t e t')
    (he : e ≠ .advanced (.start c executes)) {k : QueryKey} (hk : k.session = c.session)
    (hn : t.world.service.status? k = none) : t'.world.service.status? k = none := by
  cases hs with
  | opened | begun | shutDown | indexed => exact hn
  | raised signal => cases signal <;> exact hn
  | @advanced b others hu =>
    have hmem : b ∈ t.underway := by
      rw [hu]
      exact Multiset.mem_cons_self _ _
    obtain ⟨s, hs⟩ := hp.session?_of_mem hmem
    obtain ⟨s', hm⟩ := Activity.move_advance hs
    have hw : (b.advance t.world).1.service.status? k = none := by
      by_cases hne : c.session = b.session
      · obtain ⟨rest, hu', hr⟩ := h
        rw [hu'] at hmem
        refine hm.status?_eq_none ?_ hn
        rcases Multiset.mem_cons.1 hmem with rfl | hmem
        · exact absurd rfl he
        · exact hr b hmem hne.symm
      · obtain ⟨-, -, hst⟩ := hp.others hu hs hm hne
        exact (hst k hk).eq_none.2 hn
    rcases t.advance_eq b others with he | ⟨-, -, he⟩
    · rw [he]
      exact hw
    · rw [he]
      exact hw

/-- A start that is refused after it has entered its session leaves no query active in it, and the
session owns none of the tables. -/
lemma Undisturbed.ended (h : Undisturbed took t c) (hp : t.Proper)
    (hu : t.underway = .start c executes ::ₘ rest) (hq : c.phase ≠ .entering) {r : Refusal}
    (hr : (c.advance t.world).2 = .done (.error r)) :
    (∃ s, (t.advance (.start c executes) rest).world.session? c.session = some s ∧
        s.active = none) ∧
      ∀ u, took u ∨ u ∈ c.taken →
        (t.advance (.start c executes) rest).world.host.locks.owner u ≠ some c.session := by
  obtain ⟨s, s', hs, hfits, hm⟩ := hp.start_move hu
  have hv : s.active = none := h.vacant hq s hs
  have hv' : s'.active = none := hm.active_of_refused hr hv
  rw [advance_refused hr]
  refine ⟨⟨s', hm.session?_eq hs, hv'⟩, fun u htook ho => ?_⟩
  -- The session cannot have come to own it in this section, and did not own it before.
  rcases hm.in_charge hfits.coherent ho with hl | hl | ⟨_, _, -, hl, -⟩ | ⟨ho, -, hnt⟩
  · rw [Session.lockedTables_of_none hv'] at hl
    cases hl
  · rw [hr] at hl
    cases hl
  · rw [Session.lockedTables_of_none hv] at hl
    cases hl
  · exact hnt (htook.elim (fun htook => h.given u htook ho) id)

/-! ### After the sweep -/

/-- The session of a start in admission has no records. -/
structure Doomed (key : QueryKey) (a : Admission) (t : Traffic) (c : Start) : Prop where
  phase : c.phase = .admitting key a
  gone : ∀ k, k.session = c.session → t.world.service.status? k = none

variable {key : QueryKey} {a a₀ : Admission}

lemma Doomed.step (h : Doomed key a t c) (hp : t.Proper) (ht : t.Sole (.start c executes))
    (hs : Step t e t') (he : e ≠ .advanced (.start c executes)) : Doomed key a t' c :=
  ⟨h.phase, fun k hk => ht.status?_eq_none hp hs he hk (h.gone k hk)⟩

/-- The admission of a start that fits the roster. -/
lemma Doomed.admission (h : Doomed key a t c) (hc : c.Coherent) :
    a.key = key ∧ key.session = c.session ∧ (∀ wait, a.phase = .waiting wait → wait.key = a.key) ∧
      t.world.service.status? a.key = none := by
  obtain ⟨hk, hwait⟩ := hc.admission key a h.phase
  have hs : key.session = c.session := by
    rw [← hk]
    exact hc.native.session_admission h.phase
  refine ⟨hk, hs, ?_, h.gone a.key (by rwa [hk])⟩
  rwa [hk]

/-- A start without a record goes on in admission, nearer to its end. -/
lemma Doomed.own (h : Doomed key a t c) (hp : t.Proper)
    (hu : t.underway = .start c executes ::ₘ rest) (hc : (c.advance t.world).2.call? = some c') :
    ∃ a', Doomed key a' (t.advance (.start c executes) rest) c' ∧ a'.patience < a.patience ∧
      (a'.MidPoll → a.MidPoll) := by
  obtain ⟨s, s', hs, hfits, hm⟩ := hp.start_move hu
  obtain ⟨hk, -, hwait, hn⟩ := h.admission hfits.coherent
  have hcs : c'.session = c.session := hm.session_eq hc
  obtain ⟨p, hma, -, hrelay⟩ := hm.admission_of h.phase
  have goes (a' : Admission) (hp : p.call? = some a') (hc' : c' = c.inPhase (.admitting key a')) :
      ∃ a', Doomed key a' (t.advance (.start c executes) rest) c' ∧ a'.patience < a.patience ∧
        (a'.MidPoll → a.MidPoll) := by
    obtain ⟨hlt, hmid⟩ := hma.patience_lt hwait hn hp
    refine ⟨a', ⟨by rw [hc']; rfl, fun k hks => ?_⟩, hlt, hmid⟩
    rw [advance_start hc]
    exact hma.status?_eq_none (h.gone k (hks.trans hcs))
  rw [hrelay] at hc
  rcases p with a' | a' | (r | locked)
  · exact goes a' rfl (Option.some.inj hc).symm
  · exact goes a' rfl (Option.some.inj hc).symm
  · cases hc
  · rcases hma.refused hwait hn rfl with he | ⟨-, why, he⟩ <;> cases he

lemma Course.doomed (h : Course executes t₀ c₀ past t c) (hp : t₀.Proper)
    (h₀ : Doomed key a₀ t₀ c₀) :
    ∃ a, Doomed key a t c ∧ past.length + a.patience ≤ a₀.patience ∧ (a.MidPoll → a₀.MidPoll) := by
  induction h with
  | nil => exact ⟨a₀, h₀, by simp, id⟩
  | other h hs he _ ih =>
    obtain ⟨a, hd, hle, hmid⟩ := ih
    exact ⟨a, hd.step (h.proper hp) (h.sole hp).1 hs he, hle, hmid⟩
  | own h hu hc ih =>
    obtain ⟨a, hd, hle, hmid⟩ := ih
    obtain ⟨a', hd', hlt, hmid'⟩ := hd.own (h.proper hp) hu hc
    refine ⟨a', hd', ?_, hmid ∘ hmid'⟩
    rw [List.length_append, List.length_singleton]
    omega

/-- When the sweep of an abort is over, no start of the session has a record. -/
lemma doomed_sweep (hp : c.phase = .admitting key a) (closes : Bool) :
    Doomed key a (t.advance (.abort ⟨c.session, .releasing []⟩ closes) rest) c := by
  refine ⟨hp, fun k hk => ?_⟩
  have hw : (Activity.advance t.world
      (.abort ⟨c.session, .releasing []⟩ closes)).1.service.status? k = none :=
    Service.status?_sweep_self _ hk
  rcases t.advance_eq (.abort ⟨c.session, .releasing []⟩ closes) rest with he | ⟨-, -, he⟩
  · rw [he]
    exact hw
  · rw [he]
    exact hw

/-- How a start ends that has no record: it is refused, and leaves nothing behind. -/
lemma Doomed.ended (h : Doomed key a t c) (hp : t.Proper) (hu : Undisturbed took t c)
    (ht : t.underway = .start c executes ::ₘ rest) {r : Except Refusal (Option QueryKey)}
    (hr : (c.advance t.world).2 = .done r) :
    (r = .error (.aborted key) ∨ a.MidPoll ∧ ∃ why : Departure, r = .error (why.refusal key)) ∧
      Doomed key a (t.advance (.start c executes) rest) c ∧
      (∃ s, (t.advance (.start c executes) rest).world.session? c.session = some s ∧
        s.active = none) ∧
      ∀ u, took u ∨ u ∈ c.taken →
        (t.advance (.start c executes) rest).world.host.locks.owner u ≠ some c.session := by
  obtain ⟨s, s', hs, hfits, hm⟩ := hp.start_move ht
  obtain ⟨hk, -, hwait, hn⟩ := h.admission hfits.coherent
  obtain ⟨p, hma, rfl, hrelay⟩ := hm.admission_of h.phase
  rw [hrelay] at hr
  obtain ⟨r', rfl, rfl⟩ : ∃ r', p = .done (.error r') ∧ r = .error r' := by
    rcases p with a' | a' | (r' | locked)
    · cases hr
    · cases hr
    · cases hr
      exact ⟨r', rfl, rfl⟩
    · cases hr
  have hrefused := hma.refused hwait hn rfl
  rw [hk] at hrefused
  have hend := hu.ended hp ht (by simp [h.phase]) (hrelay.trans hr)
  refine ⟨hrefused.imp ?_ (And.imp_right ?_), ⟨h.phase, fun k hks => ?_⟩, hend⟩
  · rintro ⟨⟩
    rfl
  · rintro ⟨why, ⟨⟩⟩
    exact ⟨why, rfl⟩
  · rw [advance_refused (hrelay.trans hr)]
    exact hma.status?_eq_none (h.gone k hks)

/-- A start that is in admission when an abort sweeps the records of its session, with any traffic
before and after that but no other start of the session: it always can go on, and after a bounded
number of sections it is over. It does not succeed. It is refused because it was aborted, unless the
sweep came in the middle of a look, where the start may also leave by itself. Then no record of the
session is left, no query is active in it, and it owns none of the tables that the start ever had in
its hands. -/
theorem aborted_start {settings : Settings} {service : Service}
    (hb : Service.build settings = .ok service) {index : ViewIndex} {events : List Event}
    (hrun : Run anyKind (ofService service index) events t₀) (h₀ : c₀.phase = .entering)
    (hbefore : Course executes t₀ c₀ past t c) (hp : c.phase = .admitting key a) {closes : Bool}
    (habort : t.underway = .abort ⟨c.session, .releasing []⟩ closes ::ₘ rest)
    {past' : List Start}
    (hafter : Course executes (t.advance (.abort ⟨c.session, .releasing []⟩ closes) rest) c
      past' t' c') :
    past'.length < a.patience ∧
      ∃ rest', t'.underway = .start c' executes ::ₘ rest' ∧
        ∀ r, (c'.advance t'.world).2 = .done r →
          let t'' := t'.advance (.start c' executes) rest'
          (r = .error (.aborted key) ∨
            a.MidPoll ∧ ∃ why : Departure, r = .error (why.refusal key)) ∧
          (∀ k, k.session = c.session → t''.world.service.status? k = none) ∧
          (∃ s, t''.world.session? c.session = some s ∧ s.active = none) ∧
          ∀ d ∈ past ++ past' ++ [c'], ∀ u ∈ d.taken,
            t''.world.host.locks.owner u ≠ some c.session := by
  have hp₀ : t₀.Proper := hrun.proper (proper_ofService hb index)
  have hpt := hbefore.proper hp₀
  have hp₁ := hpt.advance habort
  have hu₀ : Undisturbed (fun _ => False) t₀ c₀ :=
    ⟨fun hq => absurd h₀ hq, fun u hu => hu.elim⟩
  have hu₁ := (hbefore.undisturbed hp₀ hu₀).step hpt (hbefore.sole hp₀).1 (.advanced habort)
    (by simp)
  obtain ⟨a', hd, hle, hmid⟩ := hafter.doomed hp₁ (doomed_sweep hp closes)
  have hpt' := hafter.proper hp₁
  obtain ⟨⟨rest', hrest, -⟩, hcs⟩ := hafter.sole hp₁
  have hone := a'.one_le_patience
  refine ⟨by omega, rest', hrest, fun r hr => ?_⟩
  obtain ⟨hres, hgone, hs, howns⟩ := hd.ended hpt' (hafter.undisturbed hp₁ hu₁) hrest hr
  rw [hcs] at hs howns
  refine ⟨hres.imp_right (And.imp_left hmid), fun k hk => hgone.gone k (hk.trans hcs.symm), hs, ?_⟩
  intro d hd u hu
  apply howns
  rcases List.mem_append.1 hd with hd | hd
  · rcases List.mem_append.1 hd with hd | hd
    · exact .inl (.inl (.inr ⟨d, hd, hu⟩))
    · exact .inl (.inr ⟨d, hd, hu⟩)
  · rw [List.mem_singleton.1 hd] at hu
    exact .inr hu

/-- So many sections of a start with nothing else between them, while it goes on. -/
def onward : Nat → World MemoryHost → Start → World MemoryHost × Start
  | 0, w, c => (w, c)
  | n + 1, w, c =>
    match (c.advance w).2.call? with
    | some c' => onward n (c.advance w).1 c'
    | none => (w, c)

/-- The start as it stands before each of these sections. -/
def stations : Nat → World MemoryHost → Start → List Start
  | 0, _, _ => []
  | n + 1, w, c =>
    match (c.advance w).2.call? with
    | some c' => c :: stations n (c.advance w).1 c'
    | none => []

lemma Course.onward (n : Nat) {w : World MemoryHost}
    (h : Course executes t₀ c₀ past ⟨w, .start c executes ::ₘ rest⟩ c) :
    Course executes t₀ c₀ (past ++ stations n w c)
      ⟨(onward n w c).1, .start (onward n w c).2 executes ::ₘ rest⟩ (onward n w c).2 := by
  induction n generalizing w c past with
  | zero =>
    rw [stations, List.append_nil]
    exact h
  | succ n ih =>
    rw [Traffic.onward, stations]
    cases hc : (c.advance w).2.call? with
    | none =>
      rw [List.append_nil]
      exact h
    | some c' =>
      have hnext := h.own rfl hc
      rw [advance_start hc] at hnext
      have hmore := ih hnext
      rwa [List.append_assoc] at hmore

/-- A start that has taken the first one of its two tables when its record is swept away: it takes
the second one as well, and gives both of them back. -/
theorem aborted_start_in_pass :
    let service := Service.ofSettings ⟨1, 4, 2, .ofNanos 30000⟩
    let index := ViewIndex.empty.register 1 [10, 20]
    ∃ events t₀ c₀ past t c a rest past' t' c' rest',
      Run anyKind (ofService service index) events t₀ ∧ Course false t₀ c₀ past t c ∧
        c.phase = .admitting ⟨1, 1⟩ a ∧ a.taken = [10] ∧
        t.underway = .abort ⟨1, .releasing []⟩ false ::ₘ rest ∧
        Course false (t.advance (.abort ⟨1, .releasing []⟩ false) rest) c past' t' c' ∧
        (∃ d ∈ past', d.taken = [20, 10]) ∧ t'.underway = .start c' false ::ₘ rest' ∧
        (c'.advance t'.world).2 = .done (.error (.aborted ⟨1, 1⟩)) ∧
        past'.length < a.patience ∧
        ∀ d ∈ past', ∀ u ∈ d.taken,
          (t'.advance (.start c' false) rest').world.host.locks.owner u ≠ some 1 := by
  intro service index
  let query : Query := ⟨"select", 7, [1], false, false⟩
  have hb : Service.build ⟨1, 4, 2, .ofNanos 30000⟩ = .ok service := rfl
  let opened := ((ofService service index).world.openSession .backend).2
  let c₀ : Start := .ofQuery 1 query
  have h₁ : Run anyKind (ofService service index) _ ⟨opened, 0⟩ :=
    .snoc .nil (.opened .backend) (oneByOne_anyKind _)
  have hrun : Run anyKind (ofService service index) _ ⟨opened, {.start c₀ false}⟩ :=
    h₁.begin rfl (by decide) (by simp) (oneByOne_anyKind _)
  have hbegun : Course false ⟨opened, {.start c₀ false}⟩ c₀ [] ⟨opened, {.start c₀ false}⟩ c₀ :=
    .nil ⟨0, rfl, by simp⟩
  let a : Admission := ⟨⟨1, 1⟩, [10, 20], .session 1, .locking (.asking 20 [] [10])⟩
  let c : Start := ⟨1, query, .admitting ⟨1, 1⟩ a⟩
  let passing := onward 6 opened c₀
  have hc : passing.2 = c := by decide +kernel
  have h₂ : Course false ⟨opened, {.start c₀ false}⟩ c₀ (stations 6 opened c₀)
      ⟨passing.1, {.start passing.2 false}⟩ passing.2 := hbegun.onward 6
  rw [hc] at h₂
  let taking : Activity := .abort (.ofSession 1) false
  let sweeping : Activity := .abort ⟨1, .releasing []⟩ false
  let t₁ : Traffic := ⟨passing.1, taking ::ₘ {.start c false}⟩
  let t := t₁.advance taking {.start c false}
  let swept := t.advance sweeping {.start c false}
  have hopen : passing.1.session? 1 ≠ none := by decide +kernel
  have hu : t.underway = sweeping ::ₘ {.start c false} := by decide +kernel
  have hus : swept.underway = {.start c false} := by decide +kernel
  let c' : Start := ⟨1, query, .admitting ⟨1, 1⟩ ⟨⟨1, 1⟩, [10, 20], .session 1, .undoing []⟩⟩
  have hc' : (onward 5 swept.world c).2 = c' := by decide +kernel
  have htook : ∃ d ∈ stations 5 swept.world c, d.taken = [20, 10] := by decide +kernel
  have hr : (c'.advance (onward 5 swept.world c).1).2 = .done (.error (.aborted ⟨1, 1⟩)) := by
    decide +kernel
  clear_value passing opened
  have hsole (t : Traffic) {b : Activity} (hb : b.isStart = false)
      (ht : t.underway = b ::ₘ {.start c false}) : t.Sole (.start c false) := by
    refine ⟨{b}, by rw [ht]; exact Multiset.cons_swap _ _ _, fun x hx _ => ?_⟩
    rwa [Multiset.mem_singleton.1 hx]
  have h₃ : Course false _ c₀ _ t₁ c :=
    h₂.other (.begun rfl hopen (by simp [Activity.closes, Activity.session, taking,
      Abort.ofSession]))
      (by simp) (hsole t₁ rfl rfl)
  have h₄ : Course false _ c₀ _ t c := h₃.other (.advanced rfl) (by simp) (hsole t rfl hu)
  have h₅ : Course false swept c [] ⟨swept.world, {.start c false}⟩ c := by
    rw [← hus]
    exact .nil ⟨0, hus, by simp⟩
  have h₆ := h₅.onward 5
  rw [hc'] at h₆
  obtain ⟨hlt, rest', hrest, hend⟩ := aborted_start hb hrun rfl h₄ rfl hu h₆
  obtain ⟨-, -, -, howns⟩ := hend _ hr
  refine ⟨_, _, _, _, t, c, a, _, _, _, c', rest', hrun, h₄, rfl, rfl, hu, h₆, htook, hrest, hr, hlt,
    fun d hd => howns d ?_⟩
  exact List.mem_append_left _ (List.mem_append_right _ hd)

end Traffic

end QueryAdmission
