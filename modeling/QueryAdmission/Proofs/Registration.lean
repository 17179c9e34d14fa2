import Mathlib.Logic.Relation
import QueryAdmission.Proofs.Freed

/-!
# Registration

When a registration is refused, and what it leaves. A scheduler refuses because it is shut down,
because the query affects too many views, or because all places are taken, and the first of these
reasons that there is counts (`Service.Refuses`); a query that has a record needs no place. A
refusal leaves the scheduler as it was, but for the tally of refusals. A query that is new stands
last, under a number that no record had before (`Service.register_exact`).

That numbers are not given out again follows from what every operation does to the roster
(`Roster.Later`): the count of arrivals never falls.
-/

namespace QueryAdmission

/-! ### What may become of a roster -/

/-- A roster and a later one: with the same bounds, which are observed, and with no fewer
arrivals. -/
structure Roster.Later (r r' : Roster) : Prop where
  capacity_eq : r'.capacity = r.capacity
  maxAffected_eq : r'.maxAffected = r.maxAffected
  arrivals_le : r.arrivals ≤ r'.arrivals
  size_le : r.size ≤ r.capacity → r'.size ≤ r.capacity

namespace Roster

variable {r r' r'' : Roster}

@[refl] lemma Later.refl (r : Roster) : r.Later r := ⟨rfl, rfl, Nat.le_refl _, id⟩

lemma Later.trans (h : r.Later r') (h' : r'.Later r'') : r.Later r'' where
  capacity_eq := h'.capacity_eq.trans h.capacity_eq
  maxAffected_eq := h'.maxAffected_eq.trans h.maxAffected_eq
  arrivals_le := Nat.le_trans h.arrivals_le h'.arrivals_le
  size_le hs := by
    have hs' := h'.size_le
    rw [h.capacity_eq] at hs'
    exact hs' (h.size_le hs)

lemma later_filter (r : Roster) (p : Record → Bool) :
    r.Later { r with records := r.records.filter p } :=
  ⟨rfl, rfl, Nat.le_refl _, Nat.le_trans (List.length_filter_le p r.records)⟩

lemma later_setStatus (r : Roster) (key : QueryKey) (status : Status) :
    r.Later (r.setStatus key status) :=
  ⟨rfl, rfl, Nat.le_refl _, fun hs => by rwa [size_setStatus]⟩

lemma later_pass (s : Schedule) (max : Nat) : s.roster.Later (s.pass max).2.roster :=
  ⟨rfl, rfl, Nat.le_refl _, fun hs => by rwa [Schedule.size_pass]⟩

lemma later_register {key : QueryKey} {affected : List ViewId} {transaction : TransactionId}
    {record : Record} (h : r.register key affected transaction = .ok (record, r')) :
    r.Later r' := by
  rcases register_eq_ok h with ⟨-, rfl⟩ | ⟨-, hroom, -, rfl⟩
  · rfl
  · refine ⟨rfl, rfl, Nat.le_succ _, fun _ => ?_⟩
    show (r.records ++ [record]).length ≤ r.capacity
    rw [List.length_append, List.length_singleton]
    exact hroom

/-- The reasons for which there is no record to be had, and their order. -/
lemma register_eq_error_iff {key : QueryKey} {affected : List ViewId} {transaction : TransactionId}
    {refusal : Refusal} :
    r.register key affected transaction = .error refusal ↔
      r.maxAffected < affected.length ∧
          refusal = .shortage (.views affected.length r.maxAffected) ∨
        affected.length ≤ r.maxAffected ∧ r.find? key = none ∧ r.capacity ≤ r.size ∧
          refusal = .shortage (.places r.capacity) := by
  rw [register]
  by_cases hlong : r.maxAffected < affected.length
  · simp [hlong, eq_comm]
  · rw [if_neg hlong]
    rcases hf : r.find? key with _ | record
    · by_cases hfull : r.capacity ≤ r.size
      · simp [hlong, hfull, Nat.le_of_not_lt hlong, eq_comm]
      · simp [hlong, hfull]
    · simp [hlong]

end Roster

namespace Service

/-! ### What an operation makes of the roster -/

section Later

variable (s : Service) (key : QueryKey)

/-- A pass after the roster has become a later one. -/
lemma later_pass {r : Roster} (h : r.Later s.schedule.roster) :
    r.Later s.pass.2.schedule.roster :=
  h.trans (Roster.later_pass s.schedule s.slots)

lemma later_register (affected : List ViewId) (transaction : TransactionId) :
    s.schedule.roster.Later (s.register key affected transaction).2.schedule.roster := by
  rw [register]
  split
  · rfl
  · split
    · rfl
    · next heq => exact later_pass _ (Roster.later_register heq)

lemma later_withdraw : s.schedule.roster.Later (s.withdraw key).2.schedule.roster := by
  rw [withdraw]
  split
  · rfl
  · next heq =>
    obtain ⟨-, rfl⟩ := Prod.mk.inj heq
    refine later_pass _ ?_
    rw [Schedule.roster_release]
    exact s.schedule.roster.later_filter _

lemma later_complete : s.schedule.roster.Later (s.complete key).2.schedule.roster := by
  have h := s.later_withdraw key
  rw [complete]
  split <;> next heq => rwa [heq] at h

lemma later_look : s.schedule.roster.Later (s.look key).2.schedule.roster := by
  rw [look]
  split
  · rfl
  · dsimp only
    split
    · exact later_pass _ (.refl _)
    · rfl

lemma later_depart (why : Departure) :
    s.schedule.roster.Later (s.depart key why).schedule.roster := by
  cases why <;> exact s.later_withdraw key

lemma later_poll (called : Bool) :
    s.schedule.roster.Later (s.poll key called).2.schedule.roster := by
  have h := s.later_look key
  rw [poll]
  split
  · next heq => rwa [heq] at h
  · next heq => rwa [heq] at h
  · next heq =>
    rw [heq] at h
    split_ifs
    · exact h.trans (later_depart _ key .shutDown)
    · exact h.trans (later_depart _ key .cancelled)
    · exact h

lemma later_giveUp : s.schedule.roster.Later (s.giveUp key).schedule.roster := by
  rw [giveUp]
  split
  · rfl
  · next record _ =>
    refine later_pass _ ?_
    show s.schedule.roster.Later ((s.schedule.release record).roster.setStatus key .gaveUp)
    rw [Schedule.roster_release]
    exact s.schedule.roster.later_setStatus key .gaveUp

lemma later_markRunning : s.schedule.roster.Later (s.markRunning key).2.schedule.roster := by
  rw [markRunning]
  split
  · rfl
  · exact s.schedule.roster.later_setStatus key .running

lemma later_sweep (session : SessionId) :
    s.schedule.roster.Later (s.sweep session).2.schedule.roster := by
  rw [sweep]
  split
  · rfl
  · next heq =>
    obtain ⟨-, rfl⟩ := Prod.mk.inj heq
    refine later_pass _ ?_
    show s.schedule.roster.Later (Schedule.roster (List.foldl _ _ _))
    rw [Schedule.roster_foldl_release]
    exact s.schedule.roster.later_filter _

lemma later_apply (op : Op) : s.schedule.roster.Later (s.apply op).schedule.roster := by
  cases op with
  | register key affected transaction => exact s.later_register key affected transaction
  | complete key => exact s.later_complete key
  | pass => exact s.later_pass (.refl _)
  | poll key called => exact s.later_poll key called
  | giveUp key => exact s.later_giveUp key
  | markRunning key => exact s.later_markRunning key
  | sweep session => exact s.later_sweep session
  | shutDown => rfl

end Later

/-! ### What becomes of a scheduler -/

/-- One thing that is done with a scheduler: those of `Reached`. -/
inductive Onward : Service → Service → Prop
  | opened (s : Service) : Onward s s.openSession.2
  | applied (s : Service) (op : Op) : Onward s (s.apply op)
  | looked (s : Service) (key : QueryKey) : Onward s (s.look key).2
  | departed (s : Service) (key : QueryKey) (why : Departure) : Onward s (s.depart key why)

variable {s s' s₀ : Service} {settings : Settings} {key : QueryKey} {affected : List ViewId}
  {transaction : TransactionId} {record : Record} {refusal : Refusal}

lemma Onward.later (h : Onward s s') : s.schedule.roster.Later s'.schedule.roster := by
  cases h with
  | opened => rfl
  | applied op => exact s.later_apply op
  | looked key => exact s.later_look key
  | departed key why => exact s.later_depart key why

lemma later_of_onward (h : Relation.ReflTransGen Onward s₀ s) :
    s₀.schedule.roster.Later s.schedule.roster := by
  induction h with
  | refl => rfl
  | tail _ h ih => exact ih.trans h.later

/-- A number that was given out once is behind for good. -/
lemma arrival_le_of_onward (h₀ : Reached settings s₀) (h : Relation.ReflTransGen Onward s₀ s)
    (hr : record ∈ s₀.records) : record.arrival ≤ s.schedule.roster.arrivals :=
  Nat.le_trans (h₀.ranked.roster.numbered record hr) (later_of_onward h).arrivals_le

lemma Reached.exists_onward (h : Reached settings s) :
    Relation.ReflTransGen Onward (ofSettings settings) s := by
  induction h with
  | built hb =>
    obtain ⟨rfl, -⟩ := build_eq_ok hb
    exact .refl
  | opened _ ih => exact ih.tail (.opened _)
  | applied _ op ih => exact ih.tail (.applied _ op)
  | looked _ key ih => exact ih.tail (.looked _ key)
  | departed _ key why ih => exact ih.tail (.departed _ key why)

/-- The bounds of the roster are those of the settings, and they are observed. -/
lemma Reached.bounds (h : Reached settings s) :
    s.schedule.roster.capacity = settings.maxQueries.toNat ∧
      s.schedule.roster.maxAffected = settings.maxAffected.toNat ∧
      s.records.length ≤ settings.maxQueries.toNat := by
  have hl := later_of_onward h.exists_onward
  exact ⟨hl.capacity_eq, hl.maxAffected_eq, hl.size_le (Nat.zero_le _)⟩

/-! ### Refusals -/

/-- What a registration that is not refused leaves, when this is the roster with the record. -/
def enter (s : Service) (roster : Roster) : Service :=
  (({ s with schedule := { s.schedule with roster } }).count fun t =>
    { t with registered := t.registered + 1 }).pass.2

/-- Why a scheduler with these settings refuses a query: the first of three reasons. -/
inductive Refuses (settings : Settings) (s : Service) (key : QueryKey) (affected : List ViewId) :
    Refusal → Prop
  | shutDown (h : s.isShut = true) : Refuses settings s key affected .shutDown
  /-- It affects too many views. It does not matter whether it has a record. -/
  | views (h : s.isShut = false) (hlong : settings.maxAffected.toNat < affected.length) :
      Refuses settings s key affected
        (.shortage (.views affected.length settings.maxAffected.toNat))
  /-- It has no record, and all places are taken. -/
  | places (h : s.isShut = false) (hshort : affected.length ≤ settings.maxAffected.toNat)
      (hkey : s.find? key = none) (hfull : s.records.length = settings.maxQueries.toNat) :
      Refuses settings s key affected (.shortage (.places settings.maxQueries.toNat))

lemma register_of_shut (h : s.isShut = true) :
    s.register key affected transaction = (.error .shutDown, s) := by
  rw [register, if_pos h]

lemma register_of_error (h : s.isShut = false)
    (hr : s.schedule.roster.register key affected transaction = .error refusal) :
    s.register key affected transaction
      = (.error refusal, s.count fun t => { t with rejected := t.rejected + 1 }) := by
  rw [register, if_neg (ne_true_of_eq_false h), hr]

lemma register_of_ok {roster : Roster} (h : s.isShut = false)
    (hr : s.schedule.roster.register key affected transaction = .ok (record, roster)) :
    s.register key affected transaction
      = (.ok (((s.enter roster).find? key).getD record), s.enter roster) := by
  rw [register, if_neg (ne_true_of_eq_false h), hr]
  rfl

/-- An open scheduler refuses what its roster refuses. -/
lemma fst_register_eq_error_iff (h : s.isShut = false) :
    (s.register key affected transaction).1 = .error refusal
      ↔ s.schedule.roster.register key affected transaction = .error refusal := by
  rcases hr : s.schedule.roster.register key affected transaction with r | ⟨record, roster⟩
  · rw [register_of_error h hr, Except.error.injEq, Except.error.injEq]
  · rw [register_of_ok h hr]
    simp only [reduceCtorEq]

/-- A registration is refused exactly when there is a reason, and then for this one. -/
lemma Reached.register_eq_error_iff (h : Reached settings s) :
    (s.register key affected transaction).1 = .error refusal
      ↔ Refuses settings s key affected refusal := by
  obtain ⟨hcapacity, hmax, hsize⟩ := h.bounds
  rcases hs : s.isShut with _ | _
  · rw [fst_register_eq_error_iff hs, Roster.register_eq_error_iff, hcapacity, hmax]
    constructor
    · rintro (⟨hlong, rfl⟩ | ⟨hshort, hkey, hfull, rfl⟩)
      · exact .views hs hlong
      · exact .places hs hshort hkey (Nat.le_antisymm hsize hfull)
    · rintro (hshut | ⟨-, hlong⟩ | ⟨-, hshort, hkey, hfull⟩)
      · cases hs.symm.trans hshut
      · exact .inl ⟨hlong, rfl⟩
      · exact .inr ⟨hshort, hkey, Nat.le_of_eq hfull.symm, rfl⟩
  · rw [register_of_shut hs]
    constructor
    · intro he
      cases he
      exact .shutDown hs
    · rintro (_ | ⟨hopen, -⟩ | ⟨hopen, -⟩)
      · rfl
      · cases hs.symm.trans hopen
      · cases hs.symm.trans hopen

/-- There is no reason for a refusal exactly when an open scheduler is asked for no more than it
has. -/
lemma Reached.not_refuses_iff (h : Reached settings s) :
    (∀ refusal, ¬Refuses settings s key affected refusal) ↔
      s.isShut = false ∧ affected.length ≤ settings.maxAffected.toNat ∧
        (s.find? key ≠ none ∨ s.records.length < settings.maxQueries.toNat) := by
  obtain ⟨-, -, hsize⟩ := h.bounds
  constructor
  · intro hno
    have hs : s.isShut = false := Bool.eq_false_iff.2 fun hshut => hno _ (.shutDown hshut)
    have hshort : affected.length ≤ settings.maxAffected.toNat :=
      Nat.le_of_not_lt fun hlong => hno _ (.views hs hlong)
    refine ⟨hs, hshort, or_iff_not_imp_left.2 fun hkey => ?_⟩
    refine Nat.lt_of_le_of_ne hsize fun hfull => ?_
    exact hno _ (.places hs hshort (not_not.1 hkey) hfull)
  · rintro ⟨hs, hshort, hplace⟩ refusal (hshut | ⟨-, hlong⟩ | ⟨-, -, hkey, hfull⟩)
    · cases hs.symm.trans hshut
    · exact absurd hshort (Nat.not_le.2 hlong)
    · rcases hplace with hlive | hroom
      · exact hlive hkey
      · exact Nat.ne_of_lt hroom hfull

/-- A refusal leaves the scheduler as it was. Only a shortage is counted. -/
lemma snd_register_of_error (h : (s.register key affected transaction).1 = .error refusal) :
    (s.register key affected transaction).2
      = if refusal.isShortage then s.count fun t => { t with rejected := t.rejected + 1 }
        else s := by
  rcases hs : s.isShut with _ | _
  · have hr := (fst_register_eq_error_iff hs).1 h
    have hshort : refusal.isShortage = true := by
      rcases Roster.register_eq_error_iff.1 hr with ⟨-, rfl⟩ | ⟨-, -, -, rfl⟩ <;> rfl
    rw [register_of_error hs hr, if_pos hshort]
  · rw [register_of_shut hs] at h ⊢
    cases h
    rfl

/-! ### Records that are entered -/

lemma forall₂_enter (s : Service) (roster : Roster) :
    List.Forall₂ Record.Pass roster.records (s.enter roster).records :=
  Schedule.forall₂_pass { s.schedule with roster } s.slots

/-- A record that is there already is given back. -/
lemma register_of_find?_some (transaction : TransactionId) (h : s.isShut = false)
    (hshort : affected.length ≤ s.schedule.roster.maxAffected) (hf : s.find? key = some record) :
    ∃ record', s.register key affected transaction = (.ok record', s.enter s.schedule.roster) ∧
      (s.enter s.schedule.roster).find? key = some record' ∧ record.Pass record' := by
  have hr : s.schedule.roster.register key affected transaction
      = .ok (record, s.schedule.roster) := by
    rw [Roster.register, if_neg (Nat.not_lt.2 hshort), show s.schedule.roster.find? key = _ from hf]
  have hrel : Option.Rel Record.Pass (s.find? key) ((s.enter s.schedule.roster).find? key) :=
    Roster.rel_find? (s.forall₂_enter s.schedule.roster) key
  rw [hf] at hrel
  rw [register_of_ok h hr]
  generalize hf' : (s.enter s.schedule.roster).find? key = o at hrel
  cases hrel with
  | some hpass => exact ⟨_, rfl, rfl, hpass⟩

/-- A new record is put behind the others. -/
lemma register_of_find?_none (transaction : TransactionId) (h : s.isShut = false)
    (hshort : affected.length ≤ s.schedule.roster.maxAffected) (hf : s.find? key = none)
    (hroom : s.records.length < s.schedule.roster.capacity) :
    let r := s.schedule.roster
    let record : Record := ⟨key, .waiting, affected, transaction, r.arrivals + 1⟩
    let s' := s.enter { r with records := r.records ++ [record], arrivals := r.arrivals + 1 }
    ∃ others record', s.register key affected transaction = (.ok record', s') ∧
      s'.find? key = some record' ∧ s'.records = others ++ [record'] ∧
      List.Forall₂ Record.Pass s.records others ∧ record.Pass record' := by
  intro r record s'
  have hr : r.register key affected transaction
      = .ok (record, { r with records := r.records ++ [record], arrivals := r.arrivals + 1 }) := by
    rw [Roster.register, if_neg (Nat.not_lt.2 hshort), show r.find? key = _ from hf]
    exact if_neg (Nat.not_le.2 hroom)
  -- The pass changes the records one by one, and the new one is the last.
  obtain ⟨others, last, hothers, hlast, hrecords⟩ :
      ∃ others last, List.Forall₂ Record.Pass s.records others ∧ record.Pass last ∧
        s'.records = others ++ [last] := by
    have hflip : List.Forall₂ (flip Record.Pass) s'.records (r.records ++ [record]) :=
      (s.forall₂_enter _).flip
    obtain ⟨last, _, hlast, hnil, heq⟩ :=
      List.forall₂_cons_right_iff.1 (List.forall₂_drop_append _ _ _ hflip)
    obtain rfl := List.forall₂_nil_right_iff.1 hnil
    refine ⟨_, last, (List.forall₂_take_append _ _ _ hflip).flip, hlast, ?_⟩
    rw [← heq, List.take_append_drop]
  have hnone : others.find? (·.key = key) = none := by
    have hrel : Option.Rel Record.Pass (s.find? key)
        (Roster.find? { r with records := others } key) := Roster.rel_find? hothers key
    rw [hf] at hrel
    generalize hf' : Roster.find? { r with records := others } key = o at hrel
    cases hrel
    exact hf'
  have hfind : s'.find? key = some last := by
    show s'.records.find? _ = _
    rw [hrecords, List.find?_append, hnone, List.find?_singleton]
    simp [hlast.key_eq, record]
  exact ⟨others, last, by rw [register_of_ok h hr, hfind]; rfl, hfind, hrecords, hothers, hlast⟩

/-- Whatever was done with a scheduler with settings in order, when a query asks to be registered:

* It is refused exactly for the first reason that there is, and if there is none it is given a
  record.
* A refusal leaves the whole scheduler as it was, but that a shortage is counted.
* A query without a record is put last, with the next number, which is larger than that of any
  record that ever was. The others keep their places, and a pass is made over all.
* A query with a record keeps it, also when all places are taken: but for what the pass makes of
  their statuses, all records are as they were. -/
theorem register_exact (h : Reached settings s) (key : QueryKey) (affected : List ViewId)
    (transaction : TransactionId) :
    let x := s.register key affected transaction
    let arrivals := s.schedule.roster.arrivals
    (∀ refusal, x.1 = .error refusal ↔ Refuses settings s key affected refusal) ∧
      (s.isShut = false → affected.length ≤ settings.maxAffected.toNat →
        s.find? key ≠ none ∨ s.records.length < settings.maxQueries.toNat →
          ∃ record, x.1 = .ok record) ∧
      (∀ refusal, x.1 = .error refusal →
        x.2 = if refusal.isShortage then s.count fun t => { t with rejected := t.rejected + 1 }
          else s) ∧
      ∀ record, x.1 = .ok record → x.2.find? key = some record ∧
        (s.find? key = none →
          Record.Pass ⟨key, .waiting, affected, transaction, arrivals + 1⟩ record ∧
            x.2.schedule.roster.arrivals = arrivals + 1 ∧
            (∃ others, x.2.records = others ++ [record] ∧
              List.Forall₂ Record.Pass s.records others) ∧
            ∀ s₀, Reached settings s₀ → Relation.ReflTransGen Onward s₀ s →
              ∀ r ∈ s₀.records, r.arrival < record.arrival) ∧
        ∀ old, s.find? key = some old →
          old.Pass record ∧ x.2.schedule.roster.arrivals = arrivals ∧
            List.Forall₂ Record.Pass s.records x.2.records := by
  intro x arrivals
  obtain ⟨hcapacity, hmax, -⟩ := h.bounds
  have hrefuses (refusal : Refusal) :
      x.1 = .error refusal ↔ Refuses settings s key affected refusal := h.register_eq_error_iff
  refine ⟨hrefuses, fun hs hshort hplace => ?_, fun _ => snd_register_of_error,
    fun record hok => ?_⟩
  · rcases hx : x.1 with refusal | record
    · exact absurd ((hrefuses refusal).1 hx) (h.not_refuses_iff.2 ⟨hs, hshort, hplace⟩ refusal)
    · exact ⟨record, rfl⟩
  · have hno (refusal : Refusal) : ¬Refuses settings s key affected refusal := fun hr => by
      cases ((hrefuses refusal).2 hr).symm.trans hok
    obtain ⟨hs, hshort, hplace⟩ := h.not_refuses_iff.1 hno
    rw [← hmax] at hshort
    rcases hf : s.find? key with _ | old
    · have hroom : s.records.length < s.schedule.roster.capacity :=
        hcapacity ▸ hplace.resolve_left (not_not.2 hf)
      obtain ⟨others, record', heq, hfind, hrecords, hothers, hpass⟩ :=
        register_of_find?_none transaction hs hshort hf hroom
      rw [show x = _ from heq] at hok ⊢
      cases hok
      refine ⟨hfind, fun _ => ⟨hpass, rfl, ⟨others, hrecords, hothers⟩, ?_⟩, nofun⟩
      intro s₀ h₀ hon r hr
      rw [hpass.2]
      exact Nat.lt_succ_of_le (arrival_le_of_onward h₀ hon hr)
    · obtain ⟨record', heq, hfind, hpass⟩ :=
        register_of_find?_some transaction hs hshort hf
      rw [show x = _ from heq] at hok ⊢
      cases hok
      refine ⟨hfind, nofun, fun _ ho => ?_⟩
      cases ho
      exact ⟨hpass, rfl, s.forall₂_enter _⟩

/-- With room for one query, which affects one view at most. The query that has a record is
registered again, in vain; it is refused when it affects two views, and so is another query as long
as the first is there. When it is gone, the other one is given the next number. -/
theorem register_exact_full :
    let settings : Settings := ⟨1, 1, 1, .ofNanos 30000⟩
    let s := (ofSettings settings).apply (.register ⟨1, 1⟩ [1] 7)
    let s' := s.apply (.complete ⟨1, 1⟩)
    let first : Record := ⟨⟨1, 1⟩, .available, [1], 7, 1⟩
    let second : Record := ⟨⟨2, 1⟩, .available, [1], 8, 2⟩
    Reached settings s ∧ Reached settings s' ∧
      (s.register ⟨1, 1⟩ [2] 8).1 = .ok first ∧ (s.register ⟨1, 1⟩ [2] 8).2.records = [first] ∧
      (s.register ⟨1, 1⟩ [1, 2] 8).1 = .error (.shortage (.views 2 1)) ∧
      (s.register ⟨2, 1⟩ [1] 8).1 = .error (.shortage (.places 1)) ∧
      (s.register ⟨2, 1⟩ [1] 8).2 = s.count (fun t => { t with rejected := t.rejected + 1 }) ∧
      (s.shutDown.register ⟨1, 1⟩ [1, 2] 8).1 = .error .shutDown ∧
      (s'.register ⟨2, 1⟩ [1] 8).1 = .ok second ∧ first.arrival < second.arrival := by
  intro settings s s' first second
  have hs : Reached settings s := (Reached.built rfl).applied _
  have hs' : Reached settings s' := hs.applied _
  have hlong := (register_exact hs ⟨1, 1⟩ [1, 2] 8).1 (.shortage (.views 2 1))
  obtain ⟨hplaces, -, hkeep, -⟩ := register_exact hs ⟨2, 1⟩ [1] 8
  have hfull := (hplaces (.shortage (.places 1))).2 (.places rfl (by decide) (by decide) rfl)
  have hshut := (register_exact (hs.applied .shutDown) ⟨1, 1⟩ [1, 2] 8).1 .shutDown
  have hsecond : (s'.register ⟨2, 1⟩ [1] 8).1 = .ok second := by decide +kernel
  have hnew := ((register_exact hs' ⟨2, 1⟩ [1] 8).2.2.2 second hsecond).2.1 (by decide +kernel)
  exact ⟨hs, hs', by decide +kernel, by decide +kernel, hlong.2 (.views rfl (by decide)), hfull,
    hkeep _ hfull, hshut.2 (.shutDown rfl), hsecond,
    hnew.2.2.2 s hs (.single (.applied s _)) first (by decide +kernel)⟩

end Service

end QueryAdmission
