import QueryAdmission.Call.Admission
import QueryAdmission.Proofs.Custody
import QueryAdmission.Proofs.Statuses

/-!
# The sections of an admission

What one section of an admission can do (`Admission.Move`), on a host in memory. From this follows
what all sections have in common: the session comes to own what the admission takes into its hands
and no longer owns what it gives back (`Move.share_eq`), and nobody else owns more or less
(`Move.apart`).
-/

namespace QueryAdmission

/-- The call as it goes on, if it does. -/
def Progress.call? {γ ρ : Type} : Progress γ ρ → Option γ
  | next c | sleep c => some c
  | done _ => none

namespace Admission

variable {w w' : World MemoryHost} {a a' : Admission}
  {p : Progress Admission (Except Refusal (List TableId))}

/-- The sections of an admission, each with what it leads to. -/
inductive Move (w : World MemoryHost) (a : Admission) :
    World MemoryHost → Progress Admission (Except Refusal (List TableId)) → Prop
  | gone {c : Wait} (hp : a.phase = .waiting c) (hc : c.phase = .looking)
      (hn : w.service.status? c.key = none) :
      Move w a w (.done (.error (.aborted c.key)))
  | granted {c : Wait} {service : Service} (hp : a.phase = .waiting c) (hc : c.phase = .looking)
      (hl : w.service.look c.key = (.granted, service)) :
      Move w a { w with service } (.next (a.inPhase (.locking (.ofTables a.tables))))
  | queued {c : Wait} {service : Service} (hp : a.phase = .waiting c) (hc : c.phase = .looking)
      (hl : w.service.look c.key = (.queued, service)) :
      Move w a { w with service } (.next (a.inPhase (.waiting { c with phase := .pondering })))
  | called {c : Wait} {why : Departure} (hp : a.phase = .waiting c) (hc : c.phase = .pondering)
      (hd : c.departure? w = some why) :
      Move w a w (.next (a.inPhase (.waiting { c with phase := .leaving why })))
  | slept {c : Wait} (hp : a.phase = .waiting c) (hc : c.phase = .pondering) :
      Move w a w
        (.sleep (a.inPhase (.waiting { c with phase := .looking, polls := c.polls + 1 })))
  | departed {c : Wait} {why : Departure} (hp : a.phase = .waiting c)
      (hc : c.phase = .leaving why) :
      Move w a { w with service := w.service.depart c.key why }
        (.done (.error (why.refusal c.key)))
  | contact {pass pass' : LockPass} {locks : LockTable} (hp : a.phase = .locking pass)
      (hc : pass.Contact a.key.session w.host.locks locks pass') :
      Move w a { w with host := { w.host with locks } } (.next (a.inPhase (.locking pass')))
  | began {tables : List TableId} (hp : a.phase = .locking (.took tables))
      (hs : w.service.status? a.key ≠ none) :
      Move w a { w with service := (w.service.markRunning a.key).2 } (.done (.ok tables))
  | lost {tables : List TableId} (hp : a.phase = .locking (.took tables))
      (hn : w.service.status? a.key = none) :
      Move w a w (.next (a.inPhase (.undoing tables.reverse)))
  | retreated {t : TableId} (hp : a.phase = .locking (.refusedAt t)) :
      Move w a { w with service := w.service.giveUp a.key }
        (.next (a.inPhase (.waiting (.ofKey a.key a.signal))))
  | returned {t : TableId} {ts : List TableId} (hp : a.phase = .undoing (t :: ts)) :
      Move w a (w.unlock a.key.session t) (.next (a.inPhase (.undoing ts)))
  | failed (hp : a.phase = .undoing []) : Move w a w (.done (.error (.aborted a.key)))

lemma move_contact {pass : LockPass} (hp : a.phase = .locking pass) (hr : 0 < pass.remaining) :
    Move w a { w with host := (pass.step a.key.session w.host).1 }
      (.next (a.inPhase (.locking (pass.step a.key.session w.host).2))) := by
  obtain ⟨hh, hc⟩ := LockPass.contact_step a.key.session w.host hr
  rw [hh]
  exact .contact hp hc

/-- Every section is one of these. -/
lemma move_advance (w : World MemoryHost) (a : Admission) :
    Move w a (a.advance w).1 (a.advance w).2 := by
  rcases hp : a.phase with c | pass | left
  · rcases hc : c.phase with _ | _ | why
    · rcases hl : w.service.look c.key with ⟨_ | _ | _, service⟩
      · obtain ⟨hn, rfl⟩ := w.service.look_gone c.key hl
        have h : a.advance w = (w, .done (.error (.aborted c.key))) := by
          simp [advance, hp, Wait.advance, hc, hl]
        rw [h]
        exact .gone hp hc hn
      · have h : a.advance w
            = ({ w with service }, .next (a.inPhase (.locking (.ofTables a.tables)))) := by
          simp [advance, hp, Wait.advance, hc, hl]
        rw [h]
        exact .granted hp hc hl
      · have h : a.advance w = ({ w with service },
            .next (a.inPhase (.waiting { c with phase := .pondering }))) := by
          simp [advance, hp, Wait.advance, hc, hl]
        rw [h]
        exact .queued hp hc hl
    · rcases hd : c.departure? w with _ | why
      · have h : a.advance w = (w, .sleep
            (a.inPhase (.waiting { c with phase := .looking, polls := c.polls + 1 }))) := by
          simp [advance, hp, Wait.advance, hc, hd]
        rw [h]
        exact .slept hp hc
      · have h : a.advance w
            = (w, .next (a.inPhase (.waiting { c with phase := .leaving why }))) := by
          simp [advance, hp, Wait.advance, hc, hd]
        rw [h]
        exact .called hp hc hd
    · have h : a.advance w = ({ w with service := w.service.depart c.key why },
          .done (.error (why.refusal c.key))) := by
        simp [advance, hp, Wait.advance, hc]
      rw [h]
      exact .departed hp hc
  · cases pass with
    | asking t left taken =>
      have h := move_contact (w := w) hp (by simp [LockPass.remaining])
      simpa only [advance, hp] using h
    | attempting t left taken =>
      have h := move_contact (w := w) hp (by simp [LockPass.remaining])
      simpa only [advance, hp] using h
    | undoing t left refused =>
      have h := move_contact (w := w) hp (by simp [LockPass.remaining])
      simpa only [advance, hp] using h
    | took tables =>
      rcases hm : w.service.markRunning a.key with ⟨_ | _, service⟩
      · obtain ⟨hn, rfl⟩ := w.service.markRunning_error a.key hm
        have h : a.advance w = (w, .next (a.inPhase (.undoing tables.reverse))) := by
          simp [advance, hp, hm]
        rw [h]
        exact .lost hp hn
      · have h : a.advance w
            = ({ w with service := (w.service.markRunning a.key).2 }, .done (.ok tables)) := by
          simp [advance, hp, hm]
        rw [h]
        exact .began hp (w.service.markRunning_ok a.key hm)
    | refusedAt t =>
      have h : a.advance w = ({ w with service := w.service.giveUp a.key },
          .next (a.inPhase (.waiting (.ofKey a.key a.signal)))) := by
        simp [advance, hp]
      rw [h]
      exact .retreated hp
  · cases left with
    | nil =>
      have h : a.advance w = (w, .done (.error (.aborted a.key))) := by simp [advance, hp]
      rw [h]
      exact .failed hp
    | cons t ts =>
      have h : a.advance w = (w.unlock a.key.session t, .next (a.inPhase (.undoing ts))) := by
        simp [advance, hp]
      rw [h]
      exact .returned hp

/-! ### What an admission has in its hands -/

/-- The tables that an admission has in its hands. -/
def taken (a : Admission) : List TableId :=
  match a.phase with
  | .waiting _ => []
  | .locking pass => pass.taken
  | .undoing left => left

/-- The tables that are in an admission's hands after a section, or that are its result. -/
def keeps : Progress Admission (Except Refusal (List TableId)) → List TableId
  | .next a | .sleep a => a.taken
  | .done (.ok tables) => tables
  | .done (.error _) => []

/-- An admission whose session owns what the admission has in its hands, and does not own what the
admission is about to take. -/
structure Fair (l : LockTable) (a : Admission) : Prop where
  owns : ∀ t ∈ a.taken, l.owner t = some a.key.session
  lacks : ∀ t left taken, a.phase = .locking (.attempting t left taken) →
    l.owner t ≠ some a.key.session

/-- At a section, what the session owns more is what the admission has in its hands more. -/
lemma Move.share_eq (h : Move w a w' p) (ha : a.Fair w.host.locks) (u : TableId) :
    w'.host.locks.share a.key.session u + a.taken.count u
      = w.host.locks.share a.key.session u + (keeps p).count u := by
  obtain ⟨owns, lacks⟩ := ha
  rw [taken] at owns ⊢
  cases h with
  | gone hp | queued hp | called hp | slept hp | departed hp => simp [hp, keeps, taken, inPhase]
  | granted hp => simp [hp, keeps, taken, inPhase]
  | contact hp hc =>
    rw [hp] at owns ⊢
    exact hc.share_eq ⟨owns, fun t left taken ht => lacks t left taken (by rw [hp, ht])⟩ u
  | began hp =>
    rw [hp]
    rfl
  | lost hp =>
    rw [hp]
    show _ = _ + List.count u (List.reverse _)
    rw [List.count_reverse]
    rfl
  | retreated hp =>
    rw [hp]
    rfl
  | @returned t ts hp =>
    rw [hp] at owns ⊢
    exact LockTable.share_unlock (owns t List.mem_cons_self) ts
  | failed hp =>
    rw [hp]
    rfl

lemma Move.apart (h : Move w a w' p) :
    LockTable.Apart a.key.session w.host.locks w'.host.locks := by
  cases h with
  | gone | granted | queued | called | slept | departed | began | lost | retreated | failed => rfl
  | contact _ hc => exact hc.apart
  | returned => exact w.host.locks.apart_unlock _ _

/-- An admission that is about to take a table has just learned that its session lacks it. -/
lemma Move.lacks (h : Move w a w' p) (hp : p.call? = some a') {t : TableId}
    {left taken : List TableId} (ht : a'.phase = .locking (.attempting t left taken)) :
    w'.host.locks.owner t ≠ some a.key.session := by
  cases h <;> cases hp
  case granted =>
    exfalso
    revert ht
    rcases a.tables with _ | ⟨u, us⟩ <;> simp [inPhase, LockPass.ofTables, LockPass.proceed]
  case contact hp hc =>
    obtain rfl := Phase.locking.inj ht
    generalize hq : LockPass.attempting t left taken = pass at hc
    cases hc with
    | asked ho =>
      cases hq
      exact ho
    | @skipped u left =>
      cases left <;> cases hq
    | @locked u left =>
      cases left <;> cases hq
    | @refused u left taken =>
      cases taken <;> cases hq
    | @returned u refused left =>
      cases left <;> cases hq
  all_goals cases ht

/-- The next section is that of the same query, with the same tables. -/
lemma Move.same (h : Move w a w' p) (hp : p.call? = some a') :
    a'.key = a.key ∧ a'.tables = a.tables := by
  cases h <;> cases hp <;> exact ⟨rfl, rfl⟩

end Admission

end QueryAdmission
