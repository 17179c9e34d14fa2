import Mathlib.Data.List.Induction
import QueryAdmission.Proofs.Operation
import QueryAdmission.Proofs.Passage

/-!
# Admission takes all tables or none

An admission goes on among other calls (`Course`). Between any two of its sections, locks may be
taken and given back for other sessions, and the scheduler may do anything but register the query
again, make it give up, or mark it as running. However often the admission has to retreat, its
session owns nothing beyond what it owned at first whenever it waits and whenever it fails; and when
it succeeds, it has taken just the tables that the session lacked at first.
-/

namespace QueryAdmission

/-! ### The tables that a session lacks -/

namespace LockTable

variable {l : LockTable} {s : SessionId} {tables : List TableId} {t : TableId}

/-- The tables of a list that the session does not own, each once, in the order of first mention. -/
def missing (l : LockTable) (s : SessionId) (tables : List TableId) : List TableId :=
  addTables [] (tables.filter fun t => !l.held s t)

lemma mem_missing : t ∈ l.missing s tables ↔ t ∈ tables ∧ l.owner t ≠ some s := by
  simp [missing, mem_addTables, held]

lemma nodup_missing : (l.missing s tables).Nodup := nodup_addTables List.nodup_nil _

lemma missing_concat :
    l.missing s (tables ++ [t])
      = if l.owner t = some s then l.missing s tables else addTable (l.missing s tables) t := by
  by_cases h : l.owner t = some s
  · simp [missing, held, h]
  · simp [missing, held, h, addTables]

lemma missing_sublist : (l.missing s tables).Sublist tables := by
  induction tables using List.reverseRecOn with
  | nil => exact List.Sublist.refl []
  | append_singleton tables t ih =>
    rw [missing_concat]
    have hl : (l.missing s tables).Sublist (tables ++ [t]) :=
      ih.trans (List.sublist_append_left tables [t])
    split_ifs
    · exact hl
    · by_cases ht : t ∈ l.missing s tables
      · rwa [addTable, if_pos ht]
      · rw [addTable, if_neg ht]
        exact ih.append (List.Sublist.refl [t])

end LockTable

/-! ### A lock pass on its way -/

namespace LockPass

variable {s : SessionId} {l₀ l l' : LockTable} {tables : List TableId} {p p' : LockPass}

/-- How far a pass over these tables has come: of those it is done with, it has taken the ones that
the session lacked in the first table of locks. -/
def Follows (l₀ : LockTable) (s : SessionId) (tables : List TableId) : LockPass → Prop
  | asking t left taken | attempting t left taken =>
    ∃ done, tables = done ++ t :: left ∧ taken.reverse = l₀.missing s done
  | took acquired => acquired = l₀.missing s tables
  | undoing _ _ _ | refusedAt _ => True

lemma follows_proceed (done : List TableId) {left taken : List TableId} (ht : tables = done ++ left)
    (h : taken.reverse = l₀.missing s done) : (proceed left taken).Follows l₀ s tables := by
  cases left with
  | nil =>
    rw [List.append_nil] at ht
    rw [ht]
    exact h
  | cons t left => exact ⟨done, ht, h⟩

lemma follows_ofTables : (ofTables tables).Follows l₀ s tables := follows_proceed [] rfl rfl

lemma follows_undo (refused : TableId) (taken : List TableId) :
    (undo refused taken).Follows l₀ s tables := by
  cases taken <;> trivial

/-- What is owned is what was owned before the pass and what the pass has taken, so that a table is
skipped if it was not missing, and taken if it was. -/
lemma Contact.follows (h : Contact s l p l' p') (hp : p.Follows l₀ s tables)
    (hs : ∀ t, l.share s t = l₀.share s t + p.taken.count t) (hf : p.Fair s l) :
    p'.Follows l₀ s tables := by
  cases h with
  | @skipped t left taken ho =>
    obtain ⟨done, rfl, hd⟩ := hp
    refine follows_proceed (done ++ [t]) (by simp) ?_
    rw [LockTable.missing_concat, hd]
    split_ifs with h₀
    · rfl
    · have h₁ : l.share s t = 1 := if_pos ho
      have h₂ : l₀.share s t = 0 := if_neg h₀
      have h₃ : l.share s t = l₀.share s t + taken.count t := hs t
      have hc : t ∈ taken := List.count_pos_iff.1 (by omega)
      have hm : t ∈ l₀.missing s done := by
        rw [← hd]
        exact List.mem_reverse.2 hc
      rw [addTable, if_pos hm]
  | asked => exact hp
  | @locked t left taken =>
    obtain ⟨done, rfl, hd⟩ := hp
    refine follows_proceed (done ++ [t]) (by simp) ?_
    have h₁ : l.share s t = 0 := if_neg (hf.lacks t left taken rfl)
    have h₃ : l.share s t = l₀.share s t + taken.count t := hs t
    have h₀ : l₀.owner t ≠ some s := LockTable.share_eq_zero.1 (by omega)
    have hc : t ∉ taken := List.count_eq_zero.1 (by omega)
    have hm : t ∉ l₀.missing s done := by
      rw [← hd, List.mem_reverse]
      exact hc
    rw [LockTable.missing_concat, if_neg h₀, addTable, if_neg hm, List.reverse_cons, hd]
  | refused => exact follows_undo _ _
  | returned => exact follows_undo _ _

end LockPass

/-! ### An admission among other calls -/

/-- Whether an operation leaves the query alone that an admission is for: it does not register the
query again, make it give up, or mark it as running. -/
def Service.Op.Spares (key : QueryKey) : Service.Op → Prop
  | .register other _ _ | .giveUp other | .markRunning other => other ≠ key
  | _ => True

/-- What may happen between two sections of an admission. -/
inductive Elsewhere (key : QueryKey) (w : World MemoryHost) : World MemoryHost → Prop
  /-- Another session takes a table, or tries to. -/
  | attempt {other : SessionId} (ho : other ≠ key.session) (t : TableId) :
      Elsewhere key w
        { w with host := { w.host with locks := (w.host.locks.attempt other t).2 } }
  /-- Another session gives a table back. -/
  | unlock {other : SessionId} (ho : other ≠ key.session) (t : TableId) :
      Elsewhere key w (w.unlock other t)
  /-- An operation on the scheduler. -/
  | operation {op : Service.Op} (ho : op.Spares key) :
      Elsewhere key w { w with service := w.service.apply op }
  /-- A query looks for its record. -/
  | look (other : QueryKey) : Elsewhere key w { w with service := (w.service.look other).2 }
  /-- A query leaves by itself. -/
  | depart (other : QueryKey) (why : Departure) :
      Elsewhere key w { w with service := w.service.depart other why }
  /-- Sessions, signals and the index change. -/
  | surroundings (sessions : List Session) (signals : Signals Signal) (index : ViewIndex)
      (opened : Nat) :
      Elsewhere key w
        ⟨{ w.service with opened }, sessions, signals, { w.host with index }⟩

/-- An admission that began in a world goes on, and other things happen between its sections. -/
inductive Course (a₀ : Admission) (w₀ : World MemoryHost) :
    World MemoryHost → Progress Admission (Except Refusal (List TableId)) → Prop
  | start : Course a₀ w₀ w₀ (.next a₀)
  | elsewhere {w w' : World MemoryHost} {p : Progress Admission (Except Refusal (List TableId))}
      (h : Course a₀ w₀ w p) (he : Elsewhere a₀.key w w') : Course a₀ w₀ w' p
  | step {w : World MemoryHost} {p : Progress Admission (Except Refusal (List TableId))}
      {a : Admission} (h : Course a₀ w₀ w p) (ha : p.call? = some a) :
      Course a₀ w₀ (a.advance w).1 (a.advance w).2

namespace Service

/-- A query without a record gets none by an operation that leaves it alone. -/
lemma status?_apply_eq_none {s : Service} {key : QueryKey} {op : Op} (ho : op.Spares key)
    (hn : s.status? key = none) : (s.apply op).status? key = none := by
  cases op with
  | register other affected transaction =>
    exact (s.kept_register other key affected transaction (Ne.symm ho)).eq_none.2 hn
  | complete other =>
    have hk := s.kept_complete other key
    rw [hn, ite_self] at hk
    exact hk.eq_none.2 rfl
  | pass => exact (s.kept_pass key).eq_none.2 hn
  | poll other called =>
    have hl : (s.look other).2.status? key = none := (s.kept_look other key).eq_none.2 hn
    have hd (why : Departure) : ((s.look other).2.depart other why).status? key = none := by
      have hk := (s.look other).2.kept_depart other key why
      rw [hl, ite_self] at hk
      exact hk.eq_none.2 rfl
    show (s.poll other called).2.status? key = none
    rw [poll]
    rcases heq : s.look other with ⟨_ | _ | _, s'⟩
    all_goals rw [heq] at hl hd
    · exact hl
    · exact hl
    · dsimp only
      split_ifs
      · exact hd .shutDown
      · exact hd .cancelled
      · exact hl
  | giveUp other => exact (s.kept_giveUp other key (Ne.symm ho)).eq_none.2 hn
  | markRunning other =>
    show (s.markRunning other).2.status? key = none
    rw [status?_markRunning, hn]
    exact ite_self _
  | sweep session =>
    have hk := s.kept_sweep key session
    rw [hn, ite_self] at hk
    exact hk.eq_none.2 rfl
  | shutDown => exact hn

end Service

namespace Elsewhere

variable {key : QueryKey} {w w' : World MemoryHost}

lemma owner_iff (h : Elsewhere key w w') (t : TableId) :
    w'.host.locks.owner t = some key.session ↔ w.host.locks.owner t = some key.session := by
  cases h with
  | attempt ho u => exact w.host.locks.apart_attempt _ u t key.session (Ne.symm ho)
  | unlock ho u => exact w.host.locks.apart_unlock _ u t key.session (Ne.symm ho)
  | operation | look | depart | surroundings => rfl

lemma share_eq (h : Elsewhere key w w') (t : TableId) :
    w'.host.locks.share key.session t = w.host.locks.share key.session t := by
  simp only [LockTable.share, h.owner_iff]

lemma status?_eq_none (h : Elsewhere key w w') (hn : w.service.status? key = none) :
    w'.service.status? key = none := by
  cases h with
  | attempt | unlock | surroundings => exact hn
  | operation ho => exact Service.status?_apply_eq_none ho hn
  | look other => exact (w.service.kept_look other key).eq_none.2 hn
  | depart other why =>
    have hk := w.service.kept_depart other key why
    rw [hn, ite_self] at hk
    exact hk.eq_none.2 rfl

end Elsewhere

/-! ### Where an admission stands -/

namespace Admission

variable {l₀ : LockTable} {a₀ a : Admission} {w w' : World MemoryHost}
  {p : Progress Admission (Except Refusal (List TableId))}

/-- An admission that holds just what it has taken since the session owned what it owns in the first
table of locks. -/
structure Exact (l₀ : LockTable) (w : World MemoryHost) (a : Admission) : Prop where
  waits : ∀ c, a.phase = .waiting c → c.key = a.key
  share_eq : ∀ t,
    w.host.locks.share a.key.session t = l₀.share a.key.session t + a.taken.count t
  lacks : ∀ t left taken, a.phase = .locking (.attempting t left taken) →
    w.host.locks.owner t ≠ some a.key.session
  follows : ∀ pass, a.phase = .locking pass → pass.Follows l₀ a.key.session a.tables
  lost : ∀ left, a.phase = .undoing left → w.service.status? a.key = none

lemma Exact.fair (h : Exact l₀ w a) : a.Fair w.host.locks where
  owns := by
    intro t ht
    have hs := h.share_eq t
    have hc := List.count_pos_iff.2 ht
    exact LockTable.share_pos.1 (by omega)
  lacks := h.lacks

/-- What is true of an admission that began as another one. -/
def Stands (l₀ : LockTable) (a₀ : Admission) (w : World MemoryHost) :
    Progress Admission (Except Refusal (List TableId)) → Prop
  | .next a | .sleep a => a.key = a₀.key ∧ a.tables = a₀.tables ∧ Exact l₀ w a
  | .done (.ok acquired) =>
    (∀ t, w.host.locks.share a₀.key.session t = l₀.share a₀.key.session t + acquired.count t) ∧
      acquired = l₀.missing a₀.key.session a₀.tables
  | .done (.error _) =>
    (∀ t, w.host.locks.share a₀.key.session t = l₀.share a₀.key.session t) ∧
      w.service.status? a₀.key = none

lemma Stands.call (h : Stands l₀ a₀ w p) (ha : p.call? = some a) :
    a.key = a₀.key ∧ a.tables = a₀.tables ∧ Exact l₀ w a := by
  cases p with
  | next | sleep =>
    cases ha
    exact h
  | done => cases ha

lemma exact_elsewhere (h : Exact l₀ w a) (he : Elsewhere a.key w w') : Exact l₀ w' a where
  waits := h.waits
  share_eq := by
    intro t
    rw [he.share_eq, h.share_eq]
  lacks := by
    intro t left taken hp ho
    exact h.lacks t left taken hp ((he.owner_iff t).1 ho)
  follows := h.follows
  lost := by
    intro left hp
    exact he.status?_eq_none (h.lost left hp)

lemma Stands.elsewhere (h : Stands l₀ a₀ w p) (he : Elsewhere a₀.key w w') :
    Stands l₀ a₀ w' p := by
  rcases p with a | a | (r | acquired)
  · obtain ⟨hk, ht, hx⟩ := h
    exact ⟨hk, ht, exact_elsewhere hx (by rwa [hk])⟩
  · obtain ⟨hk, ht, hx⟩ := h
    exact ⟨hk, ht, exact_elsewhere hx (by rwa [hk])⟩
  · exact ⟨fun t => by rw [he.share_eq, h.1], he.status?_eq_none h.2⟩
  · exact ⟨fun t => by rw [he.share_eq, h.1], h.2⟩

/-- The admission goes on: what is owned is what it has taken by the account of every section, and
the phase that it comes to says the rest. -/
lemma exact_move {a' : Admission} (h : Exact l₀ w a) (hm : Move w a w' p)
    (ha : p.call? = some a') : Exact l₀ w' a' := by
  obtain ⟨hk, ht⟩ := hm.same ha
  have hs (t : TableId) :
      w'.host.locks.share a.key.session t = l₀.share a.key.session t + a'.taken.count t := by
    have h₁ := hm.share_eq h.fair t
    have h₂ := h.share_eq t
    have h₃ : keeps p = a'.taken := by
      cases p <;> cases ha <;> rfl
    rw [h₃] at h₁
    omega
  refine ⟨?_, by rwa [hk], fun t left taken hp => by rw [hk]; exact hm.lacks ha hp, ?_, ?_⟩
  · intro c hc
    rw [hk]
    cases hm with
    | @queued wait _ hq | @called wait _ hq | @slept wait hq =>
      cases ha
      cases hc
      exact h.waits wait hq
    | retreated =>
      cases ha
      cases hc
      rfl
    | granted | contact | lost | returned =>
      cases ha
      cases hc
    | gone | departed | began | failed => cases ha
  · intro pass hp
    rw [hk, ht]
    cases hm with
    | granted =>
      cases ha
      cases hp
      exact LockPass.follows_ofTables
    | @contact pass _ _ hq hc =>
      cases ha
      cases hp
      have hf := h.fair
      refine hc.follows (h.follows pass hq) ?_ ⟨?_, ?_⟩
      · intro t
        rw [h.share_eq, taken, hq]
      · intro t ht
        exact hf.owns t (by rwa [taken, hq])
      · intro t left taken ht
        exact hf.lacks t left taken (by rw [hq, ht])
    | queued | called | slept | retreated | lost | returned =>
      cases ha
      cases hp
    | gone | departed | began | failed => cases ha
  · intro left hp
    rw [hk]
    cases hm with
    | lost _ hn => exact hn
    | returned hq => exact h.lost _ hq
    | granted | queued | called | slept | retreated | contact =>
      cases ha
      cases hp
    | gone | departed | began | failed => cases ha

lemma Stands.move (h : Stands l₀ a₀ w p) {p' : Progress Admission (Except Refusal (List TableId))}
    (ha : p.call? = some a) (hm : Move w a w' p') : Stands l₀ a₀ w' p' := by
  obtain ⟨hk, ht, hx⟩ := h.call ha
  have hs (t : TableId) := hm.share_eq hx.fair t
  have hx₀ := hx.share_eq
  rw [hk] at hs hx₀
  rcases p' with a' | a' | (r | acquired)
  · have hm' := hm.same rfl
    exact ⟨hm'.1.trans hk, hm'.2.trans ht, exact_move hx hm rfl⟩
  · have hm' := hm.same rfl
    exact ⟨hm'.1.trans hk, hm'.2.trans ht, exact_move hx hm rfl⟩
  · constructor
    · intro t
      have h₁ := hs t
      have h₂ := hx₀ t
      have h₃ : (keeps (.done (.error r))).count t = 0 := rfl
      omega
    · cases hm with
      | @gone c hp _ hn =>
        rwa [← hk, ← hx.waits c hp]
      | @departed c why hp =>
        have hd := w.service.kept_depart c.key c.key why
        rw [if_pos rfl] at hd
        rw [← hk, ← hx.waits c hp]
        exact hd.eq_none.2 rfl
      | failed hp =>
        rw [← hk]
        exact hx.lost [] hp
  · constructor
    · intro t
      have h₁ := hs t
      have h₂ := hx₀ t
      have h₃ : (keeps (.done (.ok acquired))).count t = acquired.count t := rfl
      omega
    · cases hm with
      | began hp =>
        rw [← hk, ← ht]
        exact hx.follows _ hp

lemma exact_ofKey (key : QueryKey) (tables : List TableId) (signal : Signal)
    (w : World MemoryHost) : Exact w.host.locks w (ofKey key tables signal) := by
  refine ⟨?_, fun t => rfl, ?_, ?_, ?_⟩
  · rintro c ⟨⟩
    rfl
  all_goals
    intros
    contradiction

lemma stands_course (h₀ : Exact w.host.locks w a₀) (h : Course a₀ w w' p) :
    Stands w.host.locks a₀ w' p := by
  induction h with
  | start => exact ⟨rfl, rfl, h₀⟩
  | elsewhere _ he ih => exact ih.elsewhere he
  | step _ ha ih => exact ih.move ha (move_advance _ _)

/-- Whatever happens between the sections of an admission: whenever it waits, its session owns what
it owned at first. When it succeeds, the session owns all its tables, and those that were taken are
those that were missing, each once and in order. When it fails, the session owns what it owned at
first, and the query has no record. No section of its own changes what other sessions own. -/
theorem all_or_nothing {key : QueryKey} {tables : List TableId} {signal : Signal}
    {w₀ w : World MemoryHost} {p : Progress Admission (Except Refusal (List TableId))}
    (h : Course (ofKey key tables signal) w₀ w p) :
    (∀ a c, p.call? = some a → a.phase = .waiting c → ∀ t,
        (w.host.locks.owner t = some key.session ↔ w₀.host.locks.owner t = some key.session)) ∧
      (∀ acquired, p = .done (.ok acquired) →
        (∀ t ∈ tables, w.host.locks.owner t = some key.session) ∧
          acquired = w₀.host.locks.missing key.session tables ∧
          acquired.Nodup ∧ acquired.Sublist tables ∧
          ∀ t, t ∈ acquired ↔ t ∈ tables ∧ w₀.host.locks.owner t ≠ some key.session) ∧
      (∀ r, p = .done (.error r) →
        (∀ t, w.host.locks.owner t = some key.session
            ↔ w₀.host.locks.owner t = some key.session) ∧
          w.service.status? key = none) ∧
      ∀ a, p.call? = some a → ∀ t other, other ≠ key.session →
        ((a.advance w).1.host.locks.owner t = some other ↔ w.host.locks.owner t = some other) := by
  have hs := stands_course (exact_ofKey key tables signal w₀) h
  have owns (h : ∀ t, w.host.locks.share key.session t = w₀.host.locks.share key.session t)
      (t : TableId) : w.host.locks.owner t = some key.session
        ↔ w₀.host.locks.owner t = some key.session := by
    rw [← LockTable.share_pos, ← LockTable.share_pos, h t]
  refine ⟨?_, ?_, ?_, ?_⟩
  · intro a c ha hc
    obtain ⟨hk, -, hx⟩ := hs.call ha
    apply owns
    intro t
    have hk : a.key = key := hk
    have ht := hx.share_eq t
    have hn : a.taken = [] := by rw [taken, hc]
    rwa [hn, hk] at ht
  · rintro acquired rfl
    obtain ⟨hsh, heq⟩ := hs
    have heq : acquired = w₀.host.locks.missing key.session tables := heq
    refine ⟨?_, heq, ?_, ?_, ?_⟩
    · intro t ht
      have hst : w.host.locks.share key.session t
        = w₀.host.locks.share key.session t + acquired.count t := hsh t
      rw [← LockTable.share_pos]
      by_cases ho : w₀.host.locks.owner t = some key.session
      · have hpos := LockTable.share_pos.2 ho
        omega
      · have hm : t ∈ acquired := by
          rw [heq]
          exact LockTable.mem_missing.2 ⟨ht, ho⟩
        have hpos := List.count_pos_iff.2 hm
        omega
    · rw [heq]
      exact LockTable.nodup_missing
    · rw [heq]
      exact LockTable.missing_sublist
    · intro t
      rw [heq]
      exact LockTable.mem_missing
  · rintro r rfl
    exact ⟨owns hs.1, hs.2⟩
  · intro a ha t other ho
    obtain ⟨hk, -⟩ := hs.call ha
    exact (move_advance w a).apart t other (by rwa [hk])

/-- So many sections of an admission with nothing else between them, or all that are left. -/
def onward : Nat → World MemoryHost → Progress Admission (Except Refusal (List TableId)) →
    World MemoryHost × Progress Admission (Except Refusal (List TableId))
  | 0, w, p => (w, p)
  | n + 1, w, p =>
    match p.call? with
    | some a => onward n (a.advance w).1 (a.advance w).2
    | none => (w, p)

lemma course_onward {w₀ : World MemoryHost} (n : Nat) (h : Course a₀ w₀ w p) :
    Course a₀ w₀ (onward n w p).1 (onward n w p).2 := by
  induction n generalizing w p with
  | zero => exact h
  | succ n ih =>
    rw [onward]
    split
    · next a ha => exact ih (h.step ha)
    · exact h

/-- An admission for tables of which one is its session's, and another one belongs to a session that
gives it back only after the admission has retreated. -/
theorem all_or_nothing_retreat :
    let key : QueryKey := ⟨1, 1⟩
    let tables : List TableId := [30, 10, 20, 30]
    let service := (Service.ofSettings ⟨2, 4, 2, .ofNanos 30000⟩).register key [1] 7
    let w₀ : World MemoryHost := .ofService service.2 ⟨.empty, ⟨[(20, 2), (10, 1)]⟩⟩
    let parked := onward 8 w₀ (.next (ofKey key tables (.session 1)))
    let ended := onward 8 (parked.1.unlock 2 20) parked.2
    Course (ofKey key tables (.session 1)) w₀ ended.1 ended.2 ∧
      ended.2 = .done (.ok [30, 20]) ∧
      (∀ t ∈ tables, ended.1.host.locks.owner t = some 1) ∧
      [30, 20] = w₀.host.locks.missing 1 tables := by
  intro key tables service w₀ parked ended
  have hp : Course (ofKey key tables (.session 1)) w₀ parked.1 parked.2 := course_onward 8 .start
  have hu : Elsewhere key parked.1 (parked.1.unlock 2 20) := .unlock (by decide) 20
  have he : Course (ofKey key tables (.session 1)) w₀ ended.1 ended.2 :=
    course_onward 8 (hp.elsewhere hu)
  have hd : ended.2 = .done (.ok [30, 20]) := by decide
  obtain ⟨howns, hmissing, -⟩ := (all_or_nothing he).2.1 [30, 20] hd
  exact ⟨he, hd, howns, hmissing⟩

end Admission

end QueryAdmission
