import QueryAdmission.Proofs.Operation

/-!
# Statuses under the operations

What every section of the scheduler does to the status of every key. A section changes the status of
the keys that it is about, and then a pass may change any other status (`Status.Kept`): no record
comes or goes by that, and in a scheduler between two operations nothing happens but that queries
which wait are given a slot (`Kept.mayAdmit`).
-/

namespace QueryAdmission

/-- A status of which nothing but a pass may have made another one. -/
def Status.Kept (o o' : Option Status) : Prop := o' = o ∨ Option.Rel Status.Pass o o'

namespace Status

@[refl] lemma Kept.refl (o : Option Status) : Kept o o := .inl rfl

lemma Kept.isSome {o o' : Option Status} (h : Kept o o') : o'.isSome = o.isSome := by
  rcases h with rfl | h
  · rfl
  · cases h <;> rfl

lemma Kept.eq_none {o o' : Option Status} (h : Kept o o') : o' = none ↔ o = none := by
  rw [← Option.not_isSome_iff_eq_none, ← Option.not_isSome_iff_eq_none, h.isSome]

lemma Kept.mayAdmit {o o' : Option Status} (h : Kept o o') (ho : o ≠ some .gaveUp) :
    MayAdmit o o' := by
  rcases h with rfl | h
  · rfl
  · exact Pass.mayAdmit h ho

end Status

namespace Service

open Status (Kept)

variable (s : Service) (key other : QueryKey)

lemma kept_pass : Kept (s.status? key) (s.pass.2.status? key) :=
  .inr (Roster.rel_status? (s.schedule.forall₂_pass s.slots) key)

/-- A pass after a section that leaves this roster. -/
lemma kept_pass_of_roster {s' : Service} {roster : Roster} (h : s'.schedule.roster = roster) :
    Kept (roster.status? key) (s'.pass.2.status? key) := by
  rw [← h]
  exact s'.kept_pass key

lemma kept_withdraw :
    Kept (if other = key then none else s.status? other) ((s.withdraw key).2.status? other) := by
  rw [withdraw]
  rcases heq : s.schedule.roster.remove key with ⟨_ | record, roster⟩
  · have hn : s.find? key = none := (Prod.mk.inj heq).1
    by_cases hk : other = key
    · rw [if_pos hk, hk]
      show Kept none ((s.find? key).map _)
      rw [hn]
      rfl
    · rw [if_neg hk]
  · obtain rfl : (s.schedule.roster.remove key).2 = roster := by rw [heq]
    rw [status?, ← Roster.status?_remove]
    exact kept_pass_of_roster other (Schedule.roster_release _ _)

lemma kept_complete :
    Kept (if other = key then none else s.status? other) ((s.complete key).2.status? other) := by
  have h := s.kept_withdraw key other
  rw [complete]
  rcases heq : s.withdraw key with ⟨_ | _, s'⟩
  · rwa [heq] at h
  · rwa [heq] at h

lemma kept_depart (why : Departure) :
    Kept (if other = key then none else s.status? other) ((s.depart key why).status? other) := by
  cases why with
  | shutDown => exact s.kept_withdraw key other
  | cancelled => exact s.kept_withdraw key other

lemma kept_look : Kept (s.status? other) ((s.look key).2.status? other) := by
  rw [look]
  split
  · rfl
  · next status _ =>
    by_cases hc : s.running = 0 ∧ status ≠ .available
    · rw [if_pos hc]
      exact (s.count _).kept_pass other
    · rw [if_neg hc]

/-- A query that finds its record gone has none, and nothing has changed. -/
lemma look_gone {s' : Service} (h : s.look key = (.gone, s')) : s.status? key = none ∧ s' = s := by
  rw [look] at h
  split at h
  · next hn =>
    cases h
    exact ⟨hn, rfl⟩
  · split at h
    · have hg := (Prod.mk.inj h).1
      split_ifs at hg
    · have hg := (Prod.mk.inj h).1
      split_ifs at hg

/-- A query that finds its record, and what it finds then. -/
lemma look_found {s' : Service} {sight : Sight} (h : s.look key = (sight, s'))
    (hs : sight ≠ .gone) :
    ∃ status, s'.status? key = some status ∧ (sight = .granted ↔ status.holdsSlot) := by
  have hk := s.kept_look key key
  rw [h] at hk
  rw [look] at h
  split at h
  · cases h
    exact absurd rfl hs
  · next status hst =>
    rw [hst] at hk
    obtain ⟨status', hst'⟩ := Option.isSome_iff_exists.1 hk.isSome
    refine ⟨status', hst', ?_⟩
    split at h
    · obtain ⟨rfl, rfl⟩ := Prod.mk.inj h
      rw [hst', Option.getD_some]
      split_ifs with hh <;> simp [hh]
    · obtain ⟨rfl, rfl⟩ := Prod.mk.inj h
      obtain rfl : status = status' := Option.some.inj (hst.symm.trans hst')
      split_ifs with hh <;> simp [hh]

lemma kept_register (affected : List ViewId) (transaction : TransactionId) (h : other ≠ key) :
    Kept (s.status? other) ((s.register key affected transaction).2.status? other) := by
  rw [register]
  split
  · rfl
  · split
    · rfl
    · next record roster heq =>
      have hr : roster.status? other = s.status? other := by
        rcases Roster.register_eq_ok heq with ⟨-, rfl⟩ | ⟨-, -, rfl, rfl⟩
        · rfl
        · rw [Roster.status?_append, if_neg h, Option.or_none]
          rfl
      rw [← hr]
      exact kept_pass_of_roster other rfl

/-- A query that is registered and had no record waits, or has a slot already. -/
lemma register_ok {affected : List ViewId} {transaction : TransactionId} {record : Record}
    {s' : Service} (h : s.register key affected transaction = (.ok record, s'))
    (hn : s.status? key = none) : Kept (some .waiting) (s'.status? key) := by
  rw [register] at h
  split at h
  · cases h
  · split at h
    · cases h
    · next _ record' roster heq =>
      obtain ⟨-, rfl⟩ := Prod.mk.inj h
      rcases Roster.register_eq_ok heq with ⟨hf, -⟩ | ⟨-, -, rfl, rfl⟩
      · rw [status?, Roster.status?, hf] at hn
        cases hn
      · have hr := Roster.status?_append s.schedule.roster
          ⟨key, .waiting, affected, transaction, s.schedule.roster.arrivals + 1⟩
          (s.schedule.roster.arrivals + 1) key
        rw [if_pos rfl, show s.schedule.roster.status? key = none from hn, Option.none_or] at hr
        rw [← hr]
        exact kept_pass_of_roster key rfl

/-- A registration that is refused changes no status. -/
lemma register_error {affected : List ViewId} {transaction : TransactionId} {r : Refusal}
    {s' : Service} (h : s.register key affected transaction = (.error r, s')) :
    s'.status? other = s.status? other := by
  rw [register] at h
  split at h
  · cases h
    rfl
  · split at h
    · cases h
      rfl
    · cases h

lemma kept_giveUp (h : other ≠ key) :
    Kept (s.status? other) ((s.giveUp key).status? other) := by
  rw [giveUp]
  split
  · rfl
  · next record _ =>
    have hr : (s.schedule.roster.setStatus key .gaveUp).status? other = s.status? other := by
      rw [Roster.status?_setStatus, if_neg h]
      rfl
    rw [← hr]
    refine kept_pass_of_roster other ?_
    show (s.schedule.release record).roster.setStatus key .gaveUp = _
    rw [Schedule.roster_release]

/-- A query that gives up waits afterwards, unless its record was gone. -/
lemma status?_giveUp : (s.giveUp key).status? key = (s.status? key).map fun _ => .waiting := by
  rw [giveUp]
  rcases hf : s.find? key with _ | record
  · have hn : s.status? key = none := by
      show (s.find? key).map _ = none
      rw [hf]
      rfl
    show s.status? key = _
    simp only [hn, Option.map_none]
  · have hs : s.status? key = some record.status := by
      show (s.find? key).map _ = some _
      rw [hf]
      rfl
    have hr : (s.schedule.roster.setStatus key .gaveUp).status? key = some .gaveUp := by
      rw [Roster.status?_setStatus, if_pos rfl, show s.schedule.roster.status? key = _ from hs]
      rfl
    have hp := Roster.rel_status? (Schedule.forall₂_pass
      ((s.schedule.release record).setStatus key .gaveUp) s.slots) key
    rw [Schedule.setStatus, Schedule.roster_release, hr] at hp
    rw [hs, Option.map_some]
    show (Schedule.pass ((s.schedule.release record).setStatus key .gaveUp) s.slots).2.roster.status?
      key = _
    rw [Schedule.setStatus, Schedule.roster_release]
    generalize Roster.status? _ key = o at hp ⊢
    cases hp with
    | some h =>
      cases h with
      | stay hne => exact absurd rfl hne
      | again => rfl

lemma status?_markRunning :
    (s.markRunning key).2.status? other
      = if other = key then (s.status? other).map fun _ => .running else s.status? other := by
  rw [markRunning]
  split
  · next hn =>
    split
    · next hk => rw [hk, hn]; rfl
    · rfl
  · exact Roster.status?_setStatus _ _ _ _

lemma markRunning_ok {s' : Service} (h : s.markRunning key = (.ok (), s')) :
    s.status? key ≠ none := by
  rw [markRunning] at h
  split at h
  · cases h
  · next hs =>
    rw [hs]
    exact Option.some_ne_none _

lemma markRunning_error {s' : Service} {r : Refusal} (h : s.markRunning key = (.error r, s')) :
    s.status? key = none ∧ s' = s := by
  rw [markRunning] at h
  split at h
  · next hn =>
    cases h
    exact ⟨hn, rfl⟩
  · cases h

lemma kept_sweep (session : SessionId) :
    Kept (if key.session = session then none else s.status? key)
      ((s.sweep session).2.status? key) := by
  rw [sweep]
  rcases heq : s.schedule.roster.removeSession session with ⟨_ | ⟨r, l⟩, roster⟩
  · have hr : s.records.filter (·.session = session) = [] := (Prod.mk.inj heq).1
    split
    · next hk =>
      left
      refine Roster.status?_eq_none.2 fun x hx he => ?_
      have hm : x ∈ s.records.filter (·.session = session) :=
        List.mem_filter.2 ⟨hx, by simp [Record.session, he, hk]⟩
      rw [hr] at hm
      cases hm
    · rfl
  · obtain rfl : (s.schedule.roster.removeSession session).2 = roster := by rw [heq]
    rw [status?, ← Roster.status?_removeSession]
    exact kept_pass_of_roster key (Schedule.roster_foldl_release _ _)

/-- A sweep finds nothing where the session has no records. -/
lemma sweep_of_none {session : SessionId} (h : ∀ k, k.session = session → s.status? k = none) :
    (s.sweep session).2 = s := by
  have hf : s.schedule.roster.records.filter (·.session = session) = [] := by
    rw [List.filter_eq_nil_iff]
    intro r hr hs
    exact Roster.status?_eq_none.1 (h r.key (of_decide_eq_true hs)) r hr rfl
  rw [sweep, Roster.removeSession, hf]

end Service

end QueryAdmission
