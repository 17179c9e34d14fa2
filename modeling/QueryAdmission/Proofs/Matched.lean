import Mathlib.Data.List.Perm.Basic
import QueryAdmission.Call.Run

/-!
# Contacts in matched pairs

Nothing is assumed of the host here: it may answer every contact as it likes, and it may change its
mind between two contacts. What a lock pass and such a host have said to each other is told by what
became of each table (`Visit`), and, if a table was refused, by how the pass then gave back what it
had taken (`Retreat`). A pass says just that (`LockPass.run_logs`), and so does every pass of an
admission, whatever happens to the world between two sections of it (`Admission.Dealings`). In the
end every table that was taken has been given back, or it is one of those that the admission gives
as its result (`Admission.matched_contacts`).
-/

namespace QueryAdmission

/-! ### Contacts about tables -/

namespace Contact

/-- The table that was taken by the contact, if one was. -/
def taken? : Contact → Option TableId
  | attempt _ t true => some t
  | _ => none

/-- The table that was given back by the contact, if one was. -/
def returned? : Contact → Option TableId
  | unlock _ t => some t
  | _ => none

/-- Tables are given back, the last one first. -/
def returns (s : SessionId) (tables : List TableId) : List Contact := tables.reverse.map (.unlock s)

lemma returns_cons (s : SessionId) (t : TableId) (ts : List TableId) :
    returns s (t :: ts) = returns s ts ++ [.unlock s t] := by
  simp [returns]

@[simp] lemma filterMap_taken?_returns (s : SessionId) (tables : List TableId) :
    (returns s tables).filterMap taken? = [] := by
  simp [returns, List.filterMap_eq_nil_iff, taken?]

@[simp] lemma filterMap_returned?_returns (s : SessionId) (tables : List TableId) :
    (returns s tables).filterMap returned? = tables.reverse := by
  rw [returns, List.filterMap_map]
  exact List.filterMap_some

end Contact

/-- A table that a lock pass is done with, and what became of it. -/
structure Visit where
  table : TableId
  /-- Whether the pass took the table; otherwise it was told that the session holds it. -/
  taken : Bool
  deriving DecidableEq, Repr

namespace Visit

variable (s : SessionId) (visits : List Visit)

/-- What was said about the table. -/
def contacts (v : Visit) : List Contact :=
  if v.taken then [.held s v.table false, .attempt s v.table true] else [.held s v.table true]

/-- What was said about one table after the other. -/
def transcript : List Contact := visits.flatMap (·.contacts s)

/-- The tables that were taken, in order. -/
def takings : List TableId := (visits.filter (·.taken)).map (·.table)

lemma transcript_concat (v : Visit) :
    transcript s (visits ++ [v]) = transcript s visits ++ v.contacts s := by
  simp [transcript]

lemma takings_concat (v : Visit) :
    takings (visits ++ [v]) = takings visits ++ if v.taken then [v.table] else [] := by
  rcases h : v.taken <;> simp [takings, h]

@[simp] lemma filterMap_taken?_transcript :
    (transcript s visits).filterMap Contact.taken? = takings visits := by
  induction visits with
  | nil => rfl
  | cons v visits ih =>
    rw [transcript, List.flatMap_cons, List.filterMap_append, ← transcript, ih]
    rcases h : v.taken <;> simp [contacts, takings, h, List.filterMap_cons, Contact.taken?]

@[simp] lemma filterMap_returned?_transcript :
    (transcript s visits).filterMap Contact.returned? = [] := by
  induction visits with
  | nil => rfl
  | cons v visits ih =>
    rw [transcript, List.flatMap_cons, List.filterMap_append, ← transcript, ih]
    rcases h : v.taken <;> simp [contacts, h, List.filterMap_cons, Contact.returned?]

end Visit

open Contact (returns)
open Visit (transcript takings)

/-- A lock pass that was refused a table after these visits. -/
structure Retreat where
  visits : List Visit
  refused : TableId
  deriving DecidableEq, Repr

namespace Retreat

/-- What was said: last of all, the tables that were taken are given back. -/
def contacts (s : SessionId) (r : Retreat) : List Contact :=
  transcript s r.visits ++ .held s r.refused false :: .attempt s r.refused false ::
    returns s (takings r.visits)

/-- The pass was one over these tables, and came as far as the refused one. -/
def IsOver (tables : List TableId) (r : Retreat) : Prop :=
  ∃ left, tables = r.visits.map (·.table) ++ r.refused :: left

/-- All that was taken is given back. -/
lemma matched (s : SessionId) (r : Retreat) :
    ((r.contacts s).filterMap Contact.taken?).Perm
      ((r.contacts s).filterMap Contact.returned?) := by
  simp [contacts, List.filterMap_cons, Contact.taken?, Contact.returned?]

lemma matched_flatMap (s : SessionId) (retreats : List Retreat) :
    ((retreats.flatMap (·.contacts s)).filterMap Contact.taken?).Perm
      ((retreats.flatMap (·.contacts s)).filterMap Contact.returned?) := by
  rw [List.filterMap_flatMap, List.filterMap_flatMap]
  exact .flatMap_left _ fun r _ => r.matched s

end Retreat

/-! ### A lock pass -/

namespace LockPass

variable {σ : Type} [Locking σ] {s : SessionId} {tables left taken : List TableId} {p : LockPass}
  {log before : List QueryAdmission.Contact}

/-- What a pass over these tables has said so far. -/
def Logs (s : SessionId) (tables : List TableId) : LockPass → List QueryAdmission.Contact → Prop
  | asking t left taken, log =>
    ∃ visits : List Visit, tables = visits.map (·.table) ++ t :: left ∧
      taken.reverse = takings visits ∧ log = transcript s visits
  | attempting t left taken, log =>
    ∃ visits : List Visit, tables = visits.map (·.table) ++ t :: left ∧
      taken.reverse = takings visits ∧ log = transcript s visits ++ [.held s t false]
  | undoing t left refused, log =>
    ∃ r given, Retreat.IsOver tables r ∧ r.refused = refused ∧
      takings r.visits = (t :: left).reverse ++ given ∧
      log = transcript s r.visits ++ .held s refused false :: .attempt s refused false ::
        returns s given
  | took acquired, log =>
    ∃ visits : List Visit, visits.map (·.table) = tables ∧ acquired = takings visits ∧
      log = transcript s visits
  | refusedAt t, log => ∃ r, Retreat.IsOver tables r ∧ r.refused = t ∧ log = r.contacts s

lemma logs_proceed (s : SessionId) (taken : List TableId) (visits : List Visit)
    (ht : tables = visits.map (·.table) ++ left) (hv : taken.reverse = takings visits) :
    (proceed left taken).Logs s tables (transcript s visits) := by
  cases left with
  | nil => exact ⟨visits, by rw [ht, List.append_nil], hv, rfl⟩
  | cons t left => exact ⟨visits, ht, hv, rfl⟩

lemma logs_undo (s : SessionId) {r : Retreat} (taken given : List TableId) (hr : r.IsOver tables)
    (hv : takings r.visits = taken.reverse ++ given) :
    (undo r.refused taken).Logs s tables
      (transcript s r.visits ++ .held s r.refused false :: .attempt s r.refused false ::
        returns s given) := by
  cases taken with
  | nil =>
    obtain rfl : takings r.visits = given := hv
    exact ⟨r, hr, rfl, rfl⟩
  | cons t taken => exact ⟨r, given, hr, rfl, hv, rfl⟩

lemma logs_ofTables : (ofTables tables).Logs s tables [] := logs_proceed s [] [] rfl rfl

/-- A contact is added to what has been said. -/
lemma Logs.step (h : p.Logs s tables log) (host : Recorded σ) (hp : 0 < p.remaining) :
    ∃ contact, (p.step s host).1.contacts = host.contacts ++ [contact] ∧
      (p.step s host).2.Logs s tables (log ++ [contact]) := by
  cases p with
  | asking t left taken =>
    obtain ⟨visits, ht, hv, rfl⟩ := h
    rcases hh : Locking.held host.inner s t with ⟨answer, inner⟩
    refine ⟨.held s t answer, by cases answer <;> simp [LockPass.step, Locking.held, hh], ?_⟩
    cases answer with
    | false =>
      rw [show ((asking t left taken).step s host).2 = attempting t left taken by
        simp [LockPass.step, Locking.held, hh]]
      exact ⟨visits, ht, hv, rfl⟩
    | true =>
      rw [show ((asking t left taken).step s host).2 = proceed left taken by
        simp [LockPass.step, Locking.held, hh]]
      have hlog := logs_proceed s taken (visits ++ [⟨t, false⟩])
        (by simpa using ht) (by simpa [Visit.takings_concat] using hv)
      rwa [Visit.transcript_concat] at hlog
  | attempting t left taken =>
    obtain ⟨visits, ht, hv, rfl⟩ := h
    rcases hh : Locking.attempt host.inner s t with ⟨answer, inner⟩
    refine ⟨.attempt s t answer, by cases answer <;> simp [LockPass.step, Locking.attempt, hh], ?_⟩
    rw [List.append_assoc]
    cases answer with
    | false =>
      rw [show ((attempting t left taken).step s host).2 = undo t taken by
        simp [LockPass.step, Locking.attempt, hh]]
      have hr : Retreat.IsOver tables ⟨visits, t⟩ := ⟨left, ht⟩
      exact logs_undo s taken [] hr (by simp [hv])
    | true =>
      rw [show ((attempting t left taken).step s host).2 = proceed left (t :: taken) by
        simp [LockPass.step, Locking.attempt, hh]]
      have hlog := logs_proceed s (t :: taken) (visits ++ [⟨t, true⟩])
        (by simpa using ht) (by simp [Visit.takings_concat, hv])
      rwa [Visit.transcript_concat] at hlog
  | undoing t left refused =>
    obtain ⟨r, given, hr, rfl, hv, rfl⟩ := h
    refine ⟨.unlock s t, rfl, ?_⟩
    have hlog := logs_undo s left (t :: given) hr (by simpa using hv)
    rw [Contact.returns_cons] at hlog
    simpa [LockPass.step] using hlog
  | took tables => exact absurd hp (Nat.lt_irrefl 0)
  | refusedAt t => exact absurd hp (Nat.lt_irrefl 0)

/-- A pass that nothing comes between says what a pass says, and comes to its end. -/
lemma Logs.run (h : p.Logs s tables log) (host : Recorded σ) (hh : host.contacts = before ++ log) :
    ∃ log', (LockPass.run s host p).1.contacts = before ++ log' ∧
      (LockPass.run s host p).2.Logs s tables log' ∧ (LockPass.run s host p).2.remaining = 0 := by
  fun_induction LockPass.run s host p generalizing log with
  | case1 host p hp next =>
    rename_i ih
    obtain ⟨contact, hc, hlog⟩ := h.step host hp
    exact ih hlog (by rw [hc, hh, List.append_assoc])
  | case2 host p hp => exact ⟨log, hh, h, Nat.eq_zero_of_not_pos hp⟩

/-- However the host answers, a pass comes to its end: it has taken what was not held before and
gives that as its result, or it was refused a table and has given all of that back. -/
lemma run_logs (s : SessionId) (host : Recorded σ) (tables : List TableId) :
    (∃ visits : List Visit, visits.map (·.table) = tables ∧
        (LockPass.run s host (ofTables tables)).2 = took (takings visits) ∧
        (LockPass.run s host (ofTables tables)).1.contacts
          = host.contacts ++ transcript s visits) ∨
      ∃ r, Retreat.IsOver tables r ∧
        (LockPass.run s host (ofTables tables)).2 = refusedAt r.refused ∧
        (LockPass.run s host (ofTables tables)).1.contacts = host.contacts ++ r.contacts s := by
  obtain ⟨log, hc, hlog, hover⟩ :=
    (logs_ofTables (s := s)).run host (List.append_nil host.contacts).symm
  generalize (LockPass.run s host (ofTables tables)).2 = p at hlog hover ⊢
  cases p with
  | took acquired =>
    obtain ⟨visits, ht, rfl, rfl⟩ := hlog
    exact .inl ⟨visits, ht, rfl, hc⟩
  | refusedAt t =>
    obtain ⟨r, hr, rfl, rfl⟩ := hlog
    exact .inr ⟨r, hr, rfl, hc⟩
  | asking | attempting | undoing => exact absurd hover (Nat.succ_ne_zero _)

end LockPass

/-! ### An admission -/

/-- The call as it goes on, or its result. -/
def Progress.outcome {γ ρ : Type} : Progress γ ρ → γ ⊕ ρ
  | next c | sleep c => .inl c
  | done r => .inr r

namespace Admission

variable {σ : Type} [Locking σ] {a₀ a : Admission} {w₀ w w' : World (Recorded σ)}
  {key : QueryKey} {tables : List TableId} {signal : Signal} {retreats : List Retreat}
  {before log : List Contact} {x : Admission ⊕ Except Refusal (List TableId)}

/-- An admission goes on against a host that keeps a record of its contacts. Between two sections of
it anything may happen to the world, the host's answers and the query's record included; but what
others say to the host is no contact of the admission. -/
inductive Dealings (a₀ : Admission) (w₀ : World (Recorded σ)) :
    World (Recorded σ) → Admission ⊕ Except Refusal (List TableId) → Prop
  | start : Dealings a₀ w₀ w₀ (.inl a₀)
  | elsewhere {w w' : World (Recorded σ)} {x : Admission ⊕ Except Refusal (List TableId)}
      (h : Dealings a₀ w₀ w x) (hc : w'.host.contacts = w.host.contacts) : Dealings a₀ w₀ w' x
  | step {w : World (Recorded σ)} {a : Admission} (h : Dealings a₀ w₀ w (.inl a)) :
      Dealings a₀ w₀ (a.advance w).1 (a.advance w).2.outcome

/-- What an admission has said since it last retreated. -/
def Logs (key : QueryKey) (tables : List TableId) :
    Admission ⊕ Except Refusal (List TableId) → List Contact → Prop
  | .inl a, log => a.key = key ∧ a.tables = tables ∧
    match a.phase with
    | .waiting _ => log = []
    | .locking pass => pass.Logs key.session tables log
    | .undoing left => ∃ (visits : List Visit) (given : List TableId),
        visits.map (·.table) = tables ∧ takings visits = left.reverse ++ given ∧
          log = transcript key.session visits ++ returns key.session given
  | .inr (.ok acquired), log => ∃ visits : List Visit,
      visits.map (·.table) = tables ∧ acquired = takings visits ∧
        log = transcript key.session visits
  | .inr (.error _), log => log = [] ∨ ∃ visits : List Visit,
      visits.map (·.table) = tables ∧
        log = transcript key.session visits ++ returns key.session (takings visits)

/-- What an admission has said: passes that were refused a table, and what came after them. -/
structure Recounts (before : List Contact) (key : QueryKey) (tables : List TableId)
    (contacts : List Contact) (x : Admission ⊕ Except Refusal (List TableId))
    (retreats : List Retreat) (log : List Contact) : Prop where
  contacts_eq : contacts = before ++ (retreats.flatMap (·.contacts key.session) ++ log)
  isOver : ∀ r ∈ retreats, r.IsOver tables
  logs : Logs key tables x log

lemma advance_locking {pass : LockPass} (hp : a.phase = .locking pass) (hr : 0 < pass.remaining) :
    a.advance w = ({ w with host := (pass.step a.key.session w.host).1 },
      .next (a.inPhase (.locking (pass.step a.key.session w.host).2))) := by
  cases pass with
  | asking | attempting | undoing => simp [advance, hp]
  | took | refusedAt => exact absurd hr (Nat.lt_irrefl 0)

/-- Each section says at most one thing to the host, and it is what comes next. -/
lemma Recounts.advance (h : Recounts before key tables w.host.contacts (.inl a) retreats log) :
    ∃ retreats' log', Recounts before key tables (a.advance w).1.host.contacts
      (a.advance w).2.outcome retreats' log' := by
  obtain ⟨hc, ho, rfl, rfl, hl⟩ := h
  have said {w' : World (Recorded σ)} {contact : Contact}
      (hw : w'.host.contacts = w.host.contacts ++ [contact]) :
      w'.host.contacts
        = before ++ (retreats.flatMap (·.contacts a.key.session) ++ (log ++ [contact])) := by
    rw [hw, hc, List.append_assoc, List.append_assoc]
  rcases hp : a.phase with c | pass | left <;> rw [hp] at hl
  · obtain rfl : log = [] := hl
    have hh := c.host_advance w
    rcases hw : c.advance w with ⟨w', c' | c' | (r | polls)⟩ <;> rw [hw] at hh <;>
      rw [← hh] at hc
    · rw [show a.advance w = (w', .next (a.inPhase (.waiting c'))) by
        simp [Admission.advance, hp, hw]]
      exact ⟨retreats, [], hc, ho, rfl, rfl, rfl⟩
    · rw [show a.advance w = (w', .sleep (a.inPhase (.waiting c'))) by
        simp [Admission.advance, hp, hw]]
      exact ⟨retreats, [], hc, ho, rfl, rfl, rfl⟩
    · rw [show a.advance w = (w', .done (.error r)) by simp [Admission.advance, hp, hw]]
      exact ⟨retreats, [], hc, ho, .inl rfl⟩
    · rw [show a.advance w = (w', .next (a.inPhase (.locking (.ofTables a.tables)))) by
        simp [Admission.advance, hp, hw]]
      exact ⟨retreats, [], hc, ho, rfl, rfl, LockPass.logs_ofTables⟩
  · by_cases hr : 0 < pass.remaining
    · obtain ⟨contact, hw, hlog⟩ := LockPass.Logs.step hl w.host hr
      rw [advance_locking hp hr]
      exact ⟨retreats, log ++ [contact], said hw, ho, rfl, rfl, hlog⟩
    · cases pass with
      | took acquired =>
        obtain ⟨visits, ht, rfl, rfl⟩ := hl
        rcases hm : w.service.markRunning a.key with ⟨_ | _, service⟩
        · rw [show a.advance w = ({ w with service },
              .next (a.inPhase (.undoing (takings visits).reverse))) by
            simp [Admission.advance, hp, hm]]
          exact ⟨retreats, _, hc, ho, rfl, rfl, visits, [], ht, by simp,
            (List.append_nil _).symm⟩
        · rw [show a.advance w = ({ w with service }, .done (.ok (takings visits))) by
            simp [Admission.advance, hp, hm]]
          exact ⟨retreats, _, hc, ho, visits, ht, rfl, rfl⟩
      | refusedAt t =>
        obtain ⟨r, hover, rfl, rfl⟩ := hl
        rw [show a.advance w = ({ w with service := w.service.giveUp a.key },
          .next (a.inPhase (.waiting (.ofKey a.key a.signal)))) by simp [Admission.advance, hp]]
        refine ⟨retreats ++ [r], [], ?_, ?_, rfl, rfl, rfl⟩
        · simpa using hc
        · simpa [or_imp, forall_and] using ⟨ho, hover⟩
      | asking | attempting | undoing => exact absurd (Nat.succ_pos _) hr
  · obtain ⟨visits, given, ht, hv, rfl⟩ := hl
    cases left with
    | nil =>
      rw [show a.advance w = (w, .done (.error (.aborted a.key))) by simp [Admission.advance, hp]]
      obtain rfl : takings visits = given := hv
      exact ⟨retreats, _, hc, ho, .inr ⟨visits, ht, rfl⟩⟩
    | cons t ts =>
      rw [show a.advance w = (w.unlock a.key.session t, .next (a.inPhase (.undoing ts))) by
        simp [Admission.advance, hp]]
      refine ⟨retreats, _, said rfl, ho, rfl, rfl, visits, t :: given, ht, by simpa using hv, ?_⟩
      rw [Contact.returns_cons, List.append_assoc]

lemma Dealings.recounts (h : Dealings (ofKey key tables signal) w₀ w x) :
    ∃ retreats log, Recounts w₀.host.contacts key tables w.host.contacts x retreats log := by
  induction h with
  | start => exact ⟨[], [], (List.append_nil _).symm, by simp, rfl, rfl, rfl⟩
  | elsewhere _ hc ih => rwa [hc]
  | step _ ih =>
    obtain ⟨retreats, log, ih⟩ := ih
    exact ih.advance

/-- What an admission that is over has taken is given back, or it is the result. -/
lemma Recounts.matched {contacts : List Contact} {r : Except Refusal (List TableId)}
    (h : Recounts before key tables contacts (.inr r) retreats log) :
    ((retreats.flatMap (·.contacts key.session) ++ log).filterMap Contact.taken?).Perm
      ((retreats.flatMap (·.contacts key.session) ++ log).filterMap Contact.returned?
        ++ r.toOption.getD []) := by
  have hr := Retreat.matched_flatMap key.session retreats
  rw [List.filterMap_append, List.filterMap_append, List.append_assoc]
  refine hr.append ?_
  cases r with
  | ok acquired =>
    obtain ⟨visits, -, rfl, rfl⟩ := h.logs
    simp [Except.toOption]
  | error r =>
    rcases h.logs with rfl | ⟨visits, -, rfl⟩
    · simp [Except.toOption]
    · simp [Except.toOption]

/-- A lock pass against any host: it asks about one table after the other, and attempts those that
the session does not hold, up to the first one that is refused. If none is, the result is what it
took, and nothing is given back; otherwise each table that it took is given back, the last one
first, before the refused one is reported. An admission, whatever happens between its sections, is
made of such passes: of the tables that it has taken, once for each time, those that it has not
given back are its result; and if it fails there are none, even if a whole pass had succeeded. -/
theorem matched_contacts (tables : List TableId) :
    (∀ (s : SessionId) (host : Recorded σ),
        (∃ visits : List Visit, visits.map (·.table) = tables ∧
            (LockPass.run s host (.ofTables tables)).2 = .took (takings visits) ∧
            (LockPass.run s host (.ofTables tables)).1.contacts
              = host.contacts ++ transcript s visits) ∨
          ∃ r, Retreat.IsOver tables r ∧
            (LockPass.run s host (.ofTables tables)).2 = .refusedAt r.refused ∧
            (LockPass.run s host (.ofTables tables)).1.contacts
              = host.contacts ++ r.contacts s) ∧
      ∀ (key : QueryKey) (signal : Signal) (w₀ w : World (Recorded σ))
        (r : Except Refusal (List TableId)),
        Dealings (ofKey key tables signal) w₀ w (.inr r) →
          ∃ (own : List Contact) (retreats : List Retreat) (last : List Contact),
            w.host.contacts = w₀.host.contacts ++ own ∧
            own = retreats.flatMap (·.contacts key.session) ++ last ∧
            (∀ retreat ∈ retreats, retreat.IsOver tables) ∧
            (∀ acquired, r = .ok acquired →
              (∃ visits : List Visit, visits.map (·.table) = tables ∧ acquired = takings visits ∧
                last = transcript key.session visits) ∧
              (own.filterMap Contact.taken?).Perm
                (own.filterMap Contact.returned? ++ acquired)) ∧
            ∀ refusal, r = .error refusal →
              (last = [] ∨ ∃ visits : List Visit, visits.map (·.table) = tables ∧
                last = transcript key.session visits ++ returns key.session (takings visits)) ∧
              (own.filterMap Contact.taken?).Perm (own.filterMap Contact.returned?) := by
  refine ⟨fun s host => LockPass.run_logs s host tables, fun key signal w₀ w r h => ?_⟩
  obtain ⟨retreats, last, hx⟩ := h.recounts
  have hm := hx.matched
  refine ⟨_, retreats, last, hx.contacts_eq, rfl, hx.isOver, ?_, ?_⟩
  · rintro acquired rfl
    exact ⟨hx.logs, hm⟩
  · rintro refusal rfl
    rw [show (Except.error refusal : Except Refusal (List TableId)).toOption.getD [] = [] from rfl,
      List.append_nil] at hm
    exact ⟨hx.logs, hm⟩

lemma Dealings.runUntilAsleep [Catalogue σ] (n : Nat) (h : Dealings a₀ w₀ w (.inl a)) :
    Dealings a₀ w₀ (runUntilAsleep n w a).1 (runUntilAsleep n w a).2 := by
  induction n generalizing w a with
  | zero => exact h
  | succ n ih =>
    have hs := h.step
    rw [QueryAdmission.runUntilAsleep]
    rcases ha : a.advance w with ⟨w', a' | a' | r⟩ <;> rw [ha] at hs <;>
      rw [show Stepping.step w a = _ from ha]
    · exact ih hs
    · exact hs
    · exact hs

/-- An admission for two tables is refused the second one and retreats. That table comes free, and
the next pass takes both; but then the query's session is swept, so they are given back again. -/
theorem matched_contacts_swept :
    let key : QueryKey := ⟨1, 1⟩
    let a₀ := ofKey key [10, 20] .unshared
    let service := (Service.ofSettings ⟨1, 4, 2, .ofNanos 30000⟩).register key [1] 7
    let w₀ : World (Recorded MemoryHost) := .ofService service.2 (.fresh ⟨.empty, ⟨[(20, 2)]⟩⟩)
    let retreated := (QueryAdmission.runUntilAsleep 7 w₀ a₀).1
    let freed := { retreated with host := { retreated.host with inner := ⟨.empty, .empty⟩ } }
    let locked := (QueryAdmission.runUntilAsleep 5 freed a₀).1
    let swept := { locked with service := (locked.service.sweep 1).2 }
    let ended :=
      QueryAdmission.runUntilAsleep 4 swept (a₀.inPhase (.locking (.took [10, 20])))
    let contacts := ended.1.host.contacts
    Dealings a₀ w₀ ended.1 (.inr (.error (.aborted key))) ∧
      contacts =
        [.held 1 10 false, .attempt 1 10 true, .held 1 20 false, .attempt 1 20 false, .unlock 1 10,
          .held 1 10 false, .attempt 1 10 true, .held 1 20 false, .attempt 1 20 true,
          .unlock 1 20, .unlock 1 10] ∧
      (contacts.filterMap Contact.taken?).Perm (contacts.filterMap Contact.returned?) := by
  intro key a₀ service w₀ retreated freed locked swept ended contacts
  let lockedTwo := a₀.inPhase (.locking (.took [10, 20]))
  have e₁ : (QueryAdmission.runUntilAsleep 7 w₀ a₀).2 = .inl a₀ := by decide +kernel
  have e₃ : (QueryAdmission.runUntilAsleep 5 freed a₀).2 = .inl lockedTwo := by decide +kernel
  have e₅ : ended.2 = .inr (.error (.aborted key)) := by decide +kernel
  have h₁ : Dealings a₀ w₀ retreated (.inl a₀) := e₁ ▸ Dealings.start.runUntilAsleep 7
  have h₂ : Dealings a₀ w₀ freed (.inl a₀) := h₁.elsewhere rfl
  have h₃ : Dealings a₀ w₀ locked (.inl lockedTwo) := e₃ ▸ h₂.runUntilAsleep 5
  have h₄ : Dealings a₀ w₀ swept (.inl lockedTwo) := h₃.elsewhere rfl
  have h₅ : Dealings a₀ w₀ ended.1 (.inr (.error (.aborted key))) := e₅ ▸ h₄.runUntilAsleep 4
  obtain ⟨own, retreats, last, hown, -, -, -, herror⟩ :=
    (matched_contacts [10, 20]).2 key .unshared w₀ ended.1 _ h₅
  have hown : contacts = own := hown
  rw [hown]
  exact ⟨h₅, hown ▸ by decide +kernel, (herror _ rfl).2⟩

end Admission

end QueryAdmission
