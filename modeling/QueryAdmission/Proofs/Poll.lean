import QueryAdmission.Proofs.Idle
import QueryAdmission.Proofs.Standing

/-!
# What a poll comes to

A poll of a waiting query depends on whether a slot is in use. If one is, the query finds its record
as it is, and leaves if it is called off. If none is, all records wait, and the query forces a pass
before anything else: the oldest ones are given all the slots, and whether the query is called off
is asked only if it is not among them.

So nobody goes to sleep while no slot is in use (`no_sleep_while_idle`). But a query that is given a
slot so goes on although it is called off (`called_off`), and if it is then refused a table it is
back where it was: nothing ends its admission (`Admission.Rounds.endless`).
-/

namespace QueryAdmission

namespace Service

variable {s s₀ : Service} {settings : Settings} {ops : List Op} {key : QueryKey} {r : Record}

lemma status?_of_find? (hr : s.find? key = some r) : s.status? key = some r.status := by
  show (s.find? key).map _ = _
  rw [hr]
  rfl

/-! ### What the query finds -/

lemma look_of_busy (hr : s.find? key = some r) (hpos : 0 < s.running) :
    s.look key = (if r.holdsSlot then .granted else .queued, s) := by
  rw [look, status?_of_find? hr]
  exact if_neg fun h0 => by omega

/-- The scheduler after the pass that a waiting query has forced. -/
def healed (s : Service) : Service :=
  (s.count fun t => { t with selfHeals := t.selfHeals + 1 }).pass.2

lemma Sound.healed (h : s.Sound) : s.healed.Sound := (h.toBalanced.count _).pass

lemma Sound.records_healed (h : s.Sound) (hs : s.records.Pairwise (·.arrival < ·.arrival))
    (h0 : s.running = 0) : s.healed.records = s.records.map (Record.granted s.slots s.records) := by
  have hsound : (s.count fun t => { t with selfHeals := t.selfHeals + 1 }).Sound := h.congr rfl rfl
  have hp := hsound.records_pass hs
  rwa [show Service.running (s.count _) = 0 from h0, Nat.sub_zero] at hp

lemma running_healed (h0 : s.running = 0) : s.healed.running = min s.slots (waiters s.records) := by
  show Service.running (Service.pass _).2 = _
  rw [running_pass, show Service.running (s.count _) = 0 from h0, Nat.sub_zero, Nat.zero_add]
  rfl

lemma find?_map (s : Service) {f : Record → Record} (hf : ∀ x, (f x).key = x.key) {l : List Record}
    (hl : s.records = l.map f) (key : QueryKey) :
    s.find? key = (l.find? (·.key = key)).map f := by
  show s.records.find? _ = _
  rw [hl, List.find?_map]
  congr 2
  funext x
  simp [hf]

lemma Sound.find?_healed (h : s.Sound) (hs : s.records.Pairwise (·.arrival < ·.arrival))
    (h0 : s.running = 0) (hr : s.find? key = some r) :
    s.healed.find? key = some (r.granted s.slots s.records) := by
  rw [find?_map s.healed (fun _ => Record.key_granted) (h.records_healed hs h0)]
  show (s.find? key).map _ = _
  rw [hr]
  rfl

/-- A query that finds no slot in use forces a pass, and is given a slot if it is among the oldest.
-/
lemma Sound.look_of_idle (h : s.Sound) (hs : s.records.Pairwise (·.arrival < ·.arrival))
    (h0 : s.running = 0) (hr : s.find? key = some r) :
    s.look key
      = (if waitersBefore s.records r < s.slots then .granted else .queued, s.healed) := by
  have hw := h.waiting_of_idle h0 (List.mem_of_find?_eq_some hr)
  have hst := status?_of_find? (h.find?_healed hs h0 hr)
  rw [Service.look, status?_of_find? hr]
  dsimp only
  rw [if_pos ⟨h0, by rw [hw]; decide⟩]
  change (if (((s.healed).status? key).getD r.status).holdsSlot then Sight.granted else .queued,
    s.healed) = _
  rw [hst, Option.getD_some, Record.granted]
  by_cases hlt : waitersBefore s.records r < s.slots <;> simp [hw, hlt]

/-! ### How the poll ends -/

/-- What a queued query does before it goes to sleep: it leaves if it is called off. -/
def ponder (s : Service) (key : QueryKey) (called : Bool) :
    Option (Except Refusal Unit) × Service :=
  if s.isShut then (some (.error .shutDown), s.depart key .shutDown)
  else if called then (some (.error (.cancelled key)), s.depart key .cancelled)
  else (none, s)

lemma ponder_of_called {called : Bool} (h : s.isShut ∨ called) (key : QueryKey) :
    ∃ why, s.ponder key called
      = (some (.error (if s.isShut then .shutDown else .cancelled key)), s.depart key why) := by
  rw [ponder]
  by_cases hs : s.isShut
  · exact ⟨.shutDown, by simp [hs]⟩
  · have hc : called := h.resolve_left hs
    exact ⟨.cancelled, by simp [hs, hc]⟩

lemma ponder_of_not_called {called : Bool} (h : ¬(s.isShut ∨ called)) (key : QueryKey) :
    s.ponder key called = (none, s) := by
  rw [not_or] at h
  rw [ponder, if_neg h.1, if_neg h.2]

lemma poll_of_busy (hr : s.find? key = some r) (hpos : 0 < s.running) (called : Bool) :
    s.poll key called = if r.holdsSlot then (some (.ok ()), s) else s.ponder key called := by
  rw [poll, look_of_busy hr hpos]
  cases r.holdsSlot <;> rfl

lemma Sound.poll_of_idle (h : s.Sound) (hs : s.records.Pairwise (·.arrival < ·.arrival))
    (h0 : s.running = 0) (hr : s.find? key = some r) (called : Bool) :
    s.poll key called
      = if waitersBefore s.records r < s.slots then (some (.ok ()), s.healed)
        else s.healed.ponder key called := by
  rw [Service.poll, h.look_of_idle hs h0 hr]
  by_cases hlt : waitersBefore s.records r < s.slots
  · rw [if_pos hlt, if_pos hlt]
  · rw [if_neg hlt, if_neg hlt]
    rfl

lemma records_depart (s : Service) (key : QueryKey) (why : Departure) :
    (s.depart key why).records = (s.withdraw key).2.records := by
  cases why <;> rfl

lemma find?_depart_self (s : Service) (key : QueryKey) (why : Departure) :
    (s.depart key why).find? key = none :=
  Option.map_eq_none_iff.1 (s.status?_depart_self key why)

/-- A query that was not given a slot while none was in use leaves all slots in use. -/
lemma Sound.healed_full (h : s.Sound) (h0 : s.running = 0) (hr : s.find? key = some r)
    (hlt : ¬waitersBefore s.records r < s.slots) : s.healed.running = s.slots := by
  have hm := List.mem_of_find?_eq_some hr
  have hw := waitersBefore_lt_waiters hm (h.waiting_of_idle h0 hm)
  rw [running_healed h0, Nat.min_eq_left]
  exact Nat.le_of_lt (Nat.lt_of_le_of_lt (Nat.le_of_not_lt hlt) hw)

/-- The slots that are handed out while none is in use are as many as there are, or as there are
queries that wait. -/
lemma Sound.countP_granted (h : s.Sound) (hs : s.records.Pairwise (·.arrival < ·.arrival))
    (h0 : s.running = 0) :
    (s.records.map (Record.granted s.slots s.records)).countP (·.status = .available)
      = min s.slots (waiters s.records) := by
  rw [← h.records_healed hs h0, ← running_healed h0, h.healed.running_eq]
  apply List.countP_congr
  intro x hx
  rw [h.records_healed hs h0] at hx
  obtain ⟨y, hy, rfl⟩ := List.mem_map.1 hx
  have hw := h.waiting_of_idle h0 hy
  rw [Record.holdsSlot, Record.granted]
  split_ifs <;> simp [hw]

/-- A query that is not given a slot while none is in use, and then leaves, changes nothing else. -/
lemma Sound.records_healed_depart (h : s.Sound) (hs : s.records.Pairwise (·.arrival < ·.arrival))
    (h0 : s.running = 0) (hr : s.find? key = some r) (hlt : ¬waitersBefore s.records r < s.slots)
    (why : Departure) :
    (s.healed.depart key why).records
      = (s.records.map (Record.granted s.slots s.records)).filter (·.key ≠ key) := by
  have hw := h.waiting_of_idle h0 (List.mem_of_find?_eq_some hr)
  have hh : (r.granted s.slots s.records).holdsSlot = false := by
    rw [Record.granted, if_neg fun hg => hlt hg.2, Record.holdsSlot, hw]
    rfl
  rw [records_depart, h.healed.records_withdraw_of_full (h.find?_healed hs h0 hr) hh
    (h.healed_full h0 hr hlt), h.records_healed hs h0]

/-- How a poll ends that begins while no slot is in use. -/
lemma Sound.idle_poll (h : s.Sound) (hs : s.records.Pairwise (·.arrival < ·.arrival))
    (h0 : s.running = 0) (hr : s.find? key = some r) (called : Bool) :
    let granted := s.records.map (Record.granted s.slots s.records)
    ((∀ refusal, (s.poll key called).1 ≠ some (.error refusal)) →
        (s.poll key called).2.records = granted) ∧
      (∀ refusal, (s.poll key called).1 = some (.error refusal) →
        (s.poll key called).2.records = granted.filter (·.key ≠ key)) ∧
      ((s.poll key called).1 = some (.ok ()) ↔ waitersBefore s.records r < s.slots) := by
  intro granted
  have hgranted : s.healed.records = granted := h.records_healed hs h0
  rw [h.poll_of_idle hs h0 hr called]
  by_cases hlt : waitersBefore s.records r < s.slots
  · rw [if_pos hlt]
    exact ⟨fun _ => hgranted, nofun, by simp [hlt]⟩
  · rw [if_neg hlt]
    by_cases hc : s.healed.isShut ∨ called
    · obtain ⟨why, hp⟩ := ponder_of_called hc key
      rw [hp]
      exact ⟨fun hne => absurd rfl (hne _), fun _ _ => h.records_healed_depart hs h0 hr hlt why,
        by simp [hlt]⟩
    · rw [ponder_of_not_called hc]
      exact ⟨fun _ => hgranted, nofun, by simp [hlt]⟩

/-- A poll that begins while a slot is in use, and ends with the query asleep, changes nothing. -/
lemma busy_poll (hpos : 0 < s.running) (hr : s.find? key = some r) {called : Bool}
    (he : (s.poll key called).1 = none) : (s.poll key called).2 = s := by
  rw [poll_of_busy hr hpos] at he ⊢
  cases hh : r.holdsSlot with
  | true => simp [hh] at he
  | false =>
    rw [hh, if_neg Bool.false_ne_true] at he
    rw [if_neg Bool.false_ne_true]
    by_cases hc : s.isShut ∨ called
    · obtain ⟨why, hp⟩ := ponder_of_called hc key
      rw [hp] at he
      cases he
    · rw [ponder_of_not_called hc]

/-- Nobody goes to sleep while no slot is in use. -/
lemma Sound.poll_running_pos (h : s.Sound) (hs : s.records.Pairwise (·.arrival < ·.arrival))
    (hslots : 0 < s.slots) (hr : s.find? key = some r) {called : Bool}
    (he : (s.poll key called).1 = none) : 0 < (s.poll key called).2.running := by
  rcases Nat.eq_zero_or_pos s.running with h0 | hpos
  · rw [h.poll_of_idle hs h0 hr called] at he ⊢
    by_cases hlt : waitersBefore s.records r < s.slots
    · rw [if_pos hlt] at he
      cases he
    · rw [if_neg hlt] at he ⊢
      by_cases hc : s.healed.isShut ∨ called
      · obtain ⟨why, hp⟩ := ponder_of_called hc key
        rw [hp] at he
        cases he
      · rw [ponder_of_not_called hc]
        exact Nat.lt_of_lt_of_eq hslots (h.healed_full h0 hr hlt).symm
  · rwa [busy_poll hpos hr he]

/-- On a scheduler with settings in order, after any operations, for one poll of a query with a
record. If the query goes to sleep, then somebody holds a slot. If no slot is in use before, then as
many of the oldest queries that wait are given one as there are slots, and the query is told that it
has one if fewer queries than that wait and arrived before it. And if a slot is in use before and
the query goes to sleep, nothing has changed. -/
theorem no_sleep_while_idle (hb : build settings = .ok s₀) (hrun : Run s₀ ops s)
    (hr : s.find? key = some r) (called : Bool) :
    let max := settings.maxConcurrent.toNat
    let ending := (s.poll key called).1
    let s' := (s.poll key called).2
    let granted := s.records.map (Record.granted max s.records)
    (ending = none → ∃ x ∈ s'.records, x.holdsSlot) ∧
      (s.running = 0 →
        granted.countP (·.status = .available) = min max (waiters s.records) ∧
        ((∀ refusal, ending ≠ some (.error refusal)) → s'.records = granted) ∧
        (∀ refusal, ending = some (.error refusal) → s'.records = granted.filter (·.key ≠ key)) ∧
        (ending = some (.ok ()) ↔ waitersBefore s.records r < max)) ∧
      (0 < s.running → ending = none → s' = s) := by
  have hslots := hrun.pos_slots hb
  have hs := hrun.sorted hb
  obtain ⟨rfl, -⟩ := build_eq_ok hb
  have h : s.Sound := hrun.sound (sound_ofSettings settings)
  rw [show settings.maxConcurrent.toNat = s.slots by rw [slots, hrun.alike.1]; rfl]
  intro max ending s' granted
  refine ⟨fun he => ?_, fun h0 => ⟨h.countP_granted hs h0, h.idle_poll hs h0 hr called⟩,
    fun hpos he => busy_poll hpos hr he⟩
  exact (h.poll key called).exists_holdsSlot (h.poll_running_pos hs hslots hr he)

/-- With one slot: the only query gives it up and polls. It is the oldest one, and is given the
slot. -/
theorem no_sleep_while_idle_retreat :
    let settings : Settings := ⟨1, 4, 2, .ofNanos 30000⟩
    let ops : List Op := [.register ⟨1, 1⟩ [1] 7, .giveUp ⟨1, 1⟩]
    let s := ops.foldl apply (ofSettings settings)
    let r : Record := ⟨⟨1, 1⟩, .waiting, [1], 7, 1⟩
    build settings = .ok (ofSettings settings) ∧ Run (ofSettings settings) ops s ∧
      s.find? ⟨1, 1⟩ = some r ∧ s.running = 0 ∧
      (s.poll ⟨1, 1⟩ false).1 = some (.ok ()) ∧
      (s.poll ⟨1, 1⟩ false).2.records = [r.withStatus .available] := by
  intro settings ops s r
  have hb : build settings = .ok (ofSettings settings) := rfl
  have h₁ : Run (ofSettings settings) (ops.take 1) _ := .snoc .nil trivial
  have hrun : Run (ofSettings settings) ops s := .snoc h₁ trivial
  have hr : s.find? ⟨1, 1⟩ = some r := by decide
  have h0 : s.running = 0 := by decide
  obtain ⟨-, hidle, -⟩ := no_sleep_while_idle hb hrun hr false
  obtain ⟨-, hstays, -, hfirst⟩ := hidle h0
  have hok := hfirst.2 (by decide)
  refine ⟨hb, hrun, hr, h0, hok, ?_⟩
  rw [hstays fun refusal => by simp [hok]]
  decide

/-! ### A query alone -/

/-- A query that is alone is given a slot when it looks for its record. -/
lemma Sound.look_alone (h : s.Sound) (hslots : 0 < s.slots) (hr : s.records = [r])
    (hw : r.status = .waiting) :
    s.look r.key = (.granted, s.healed) ∧ s.healed.records = [r.withStatus .available] := by
  have hs : s.records.Pairwise (·.arrival < ·.arrival) := by
    rw [hr]
    exact List.pairwise_singleton _ _
  have h0 : s.running = 0 := by
    rw [h.running_eq]
    show s.records.countP Record.holdsSlot = 0
    rw [hr, List.countP_singleton, Record.holdsSlot, hw]
    rfl
  have hf : s.find? r.key = some r := by
    show s.records.find? _ = _
    simp [hr]
  have hb : waitersBefore s.records r = 0 := by
    rw [hr]
    exact waitersBefore_eq_zero (by simp)
  have hfirst : waitersBefore s.records r < s.slots := by rwa [hb]
  refine ⟨by rw [h.look_of_idle hs h0 hf, if_pos hfirst], ?_⟩
  rw [h.records_healed hs h0]
  conv_lhs => rw [hr, List.map_cons, List.map_nil, ← hr]
  rw [Record.granted, if_pos ⟨hw, hfirst⟩]

/-- A query that is alone and gives its slot up waits again. -/
lemma records_giveUp_alone (hr : s.records = [r]) :
    (s.giveUp r.key).records = [r.withStatus .waiting] := by
  have hf : s.find? r.key = some r := by
    show s.records.find? _ = _
    simp [hr]
  have hg : ((s.schedule.release r).setStatus r.key .gaveUp).roster.records
      = [r.withStatus .gaveUp] := by
    rw [Schedule.setStatus, Schedule.roster_release]
    show s.records.map _ = _
    simp [hr]
  have again (free : Nat) :
      (handOutSlots free [r.withStatus .gaveUp]).2.map Record.waitAgain
        = [r.withStatus .waiting] := by
    cases free <;> rfl
  rw [giveUp, hf]
  show (handOutSlots _ ((s.schedule.release r).setStatus r.key .gaveUp).roster.records).2.map
    Record.waitAgain = _
  rw [hg]
  exact again _

end Service

/-! ### Refused again and again -/

namespace Admission

variable {w w' : World MemoryHost} {a a' : Admission} {t : TableId}

/-- The phases of an admission that goes round because the table is refused, each with the status of
the query. -/
inductive Round (key : QueryKey) (t : TableId) : Phase → Status → Prop
  | looking {c : Wait} (hk : c.key = key) (hc : c.phase = .looking) :
      Round key t (.waiting c) .waiting
  | asking : Round key t (.locking (.asking t [] [])) .available
  | attempting : Round key t (.locking (.attempting t [] [])) .available
  | refused : Round key t (.locking (.refusedAt t)) .available

/-- An admission, for a query that is alone, to a table that another session owns. -/
structure Rounds (t : TableId) (w : World MemoryHost) (a : Admission) : Prop where
  sound : w.service.Sound
  slots : 0 < w.service.slots
  round : ∃ r, w.service.records = [r] ∧ r.key = a.key ∧ Round a.key t a.phase r.status
  tables : a.tables = [t]
  owner : ∃ o, w.host.locks.owner t = some o ∧ o ≠ a.key.session

/-- It goes on to the next section of the round. -/
lemma Rounds.advance (h : Rounds t w a) :
    ∃ w' a', a.advance w = (w', .next a') ∧ Rounds t w' a' := by
  obtain ⟨hsound, hslots, ⟨r, hr, hk, hround⟩, htables, o, ho, hne⟩ := h
  have hlacks : w.host.locks.owner t ≠ some a.key.session := by
    rw [ho]
    exact fun h => hne (Option.some.inj h)
  generalize hp : a.phase = ph, hst : r.status = st at hround
  cases hround with
  | @looking c hck hc =>
    obtain ⟨hl, hrecords⟩ := hsound.look_alone hslots hr hst
    rw [hk, ← hck] at hl
    refine ⟨{ w with service := w.service.healed }, a.inPhase (.locking (.asking t [] [])), ?_,
      hsound.healed, hslots, ⟨_, hrecords, hk, .asking⟩, htables, o, ho, hne⟩
    simp [Admission.advance, hp, Wait.advance, hc, hl, htables, LockPass.ofTables,
      LockPass.proceed]
  | asking =>
    refine ⟨w, a.inPhase (.locking (.attempting t [] [])), ?_, hsound, hslots,
      ⟨r, hr, hk, hst ▸ .attempting⟩, htables, o, ho, hne⟩
    simp [Admission.advance, hp, LockPass.step, Locking.held, LockTable.held, hlacks]
  | attempting =>
    refine ⟨w, a.inPhase (.locking (.refusedAt t)), ?_, hsound, hslots,
      ⟨r, hr, hk, hst ▸ .refused⟩, htables, o, ho, hne⟩
    simp [Admission.advance, hp, LockPass.step, Locking.attempt, LockTable.attempt, ho, hne,
      LockPass.undo]
  | refused =>
    refine ⟨{ w with service := w.service.giveUp a.key },
      a.inPhase (.waiting (.ofKey a.key a.signal)), ?_, hsound.giveUp _, ?_,
      ⟨r.withStatus .waiting, ?_, hk, .looking rfl rfl⟩, htables, o, ho, hne⟩
    · simp [Admission.advance, hp]
    · rwa [Service.slots, (w.service.alike_giveUp a.key).1]
    · rw [← hk]
      exact Service.records_giveUp_alone hr

/-- However far it goes, it is neither over nor asleep, whether it is called off or not. -/
lemma Rounds.endless (h : Rounds t w a) (fuel : Nat) :
    ∃ w' a', runUntilAsleep fuel w a = (w', .inl a') := by
  induction fuel generalizing w a with
  | zero => exact ⟨w, a, rfl⟩
  | succ fuel ih =>
    obtain ⟨w', a', heq, h'⟩ := h.advance
    obtain ⟨w'', a'', hrun⟩ := ih h'
    refine ⟨w'', a'', ?_⟩
    have hstep : Stepping.step w a = (w', .next a') := heq
    rw [runUntilAsleep, hstep]
    exact hrun

end Admission

namespace Service

variable {s s₀ : Service} {settings : Settings} {ops : List Op} {key : QueryKey} {r : Record}

/-! ### Called off -/

/-- On a scheduler with settings in order, after any operations, for one poll of a query that waits
and is called off, by its signal or because the scheduler is shut down. If a slot is in use the
query leaves, and is told why. If no slot is in use it is given one. -/
theorem called_off (hb : build settings = .ok s₀) (hrun : Run s₀ ops s)
    (hr : s.find? key = some r) (hw : r.status = .waiting) {called : Bool}
    (hoff : s.isShut ∨ called) :
    if s.running = 0 then
      (s.poll key called).1 = some (.ok ()) ∧ (s.poll key called).2.status? key = some .available
    else
      (s.poll key called).1 = some (.error (if s.isShut then .shutDown else .cancelled key)) ∧
        (s.poll key called).2.find? key = none := by
  have hslots := hrun.pos_slots hb
  have hs := hrun.sorted hb
  have hl := hrun.lone hb
  obtain ⟨rfl, -⟩ := build_eq_ok hb
  have h : s.Sound := hrun.sound (sound_ofSettings settings)
  by_cases h0 : s.running = 0
  · rw [if_pos h0]
    have hfirst : waitersBefore s.records r < s.slots := by
      rwa [hl.waitersBefore_eq_zero h h0 (List.mem_of_find?_eq_some hr)]
    rw [h.poll_of_idle hs h0 hr, if_pos hfirst]
    refine ⟨rfl, ?_⟩
    rw [status?_of_find? (h.find?_healed hs h0 hr), Record.granted, if_pos ⟨hw, hfirst⟩]
    rfl
  · rw [if_neg h0]
    have hh : r.holdsSlot = false := by
      rw [Record.holdsSlot, hw]
      rfl
    obtain ⟨why, hp⟩ := ponder_of_called hoff key
    rw [poll_of_busy hr (Nat.pos_of_ne_zero h0), hh, if_neg Bool.false_ne_true, hp]
    exact ⟨rfl, s.find?_depart_self key why⟩

/-- With one slot, which the first query holds: the second one is called off and leaves. -/
theorem called_off_in_use :
    let settings : Settings := ⟨1, 4, 2, .ofNanos 30000⟩
    let ops : List Op := [.register ⟨1, 1⟩ [1] 7, .register ⟨2, 1⟩ [1] 8]
    let s := ops.foldl apply (ofSettings settings)
    let r : Record := ⟨⟨2, 1⟩, .waiting, [1], 8, 2⟩
    build settings = .ok (ofSettings settings) ∧ Run (ofSettings settings) ops s ∧
      s.find? ⟨2, 1⟩ = some r ∧ s.running ≠ 0 ∧
      (s.poll ⟨2, 1⟩ true).1 = some (.error (.cancelled ⟨2, 1⟩)) ∧
      (s.poll ⟨2, 1⟩ true).2.find? ⟨2, 1⟩ = none := by
  intro settings ops s r
  have hb : build settings = .ok (ofSettings settings) := rfl
  have h₁ : Run (ofSettings settings) (ops.take 1) _ := .snoc .nil trivial
  have hrun : Run (ofSettings settings) ops s := .snoc h₁ trivial
  have hr : s.find? ⟨2, 1⟩ = some r := by decide
  have hbusy : s.running ≠ 0 := by decide
  have hshut : s.isShut = false := rfl
  have hoff := called_off hb hrun hr rfl (.inr rfl : s.isShut ∨ true = true)
  rw [if_neg hbusy, hshut] at hoff
  exact ⟨hb, hrun, hr, hbusy, hoff⟩

/-- With one slot: the only query gives it up, and is given it again by its next poll although it is
called off. If its table stays locked by another session, its admission goes on for ever. -/
theorem called_off_alone :
    let settings : Settings := ⟨1, 4, 2, .ofNanos 30000⟩
    let ops : List Op := [.register ⟨1, 1⟩ [1] 7, .giveUp ⟨1, 1⟩]
    let s := ops.foldl apply (ofSettings settings)
    let w : World MemoryHost :=
      ⟨s, [], Signals.quiet.raise (.token 0), ⟨⟨[(1, [10])]⟩, (LockTable.empty.attempt 9 10).2⟩⟩
    let a := Admission.ofKey ⟨1, 1⟩ [10] (.token 0)
    build settings = .ok (ofSettings settings) ∧ Run (ofSettings settings) ops s ∧
      s.status? ⟨1, 1⟩ = some .waiting ∧ w.signals.isRaised a.signal ∧
      (s.poll ⟨1, 1⟩ true).1 = some (.ok ()) ∧
      (s.poll ⟨1, 1⟩ true).2.status? ⟨1, 1⟩ = some .available ∧
      ∀ fuel, ∃ w' a', runUntilAsleep fuel w a = (w', .inl a') := by
  intro settings ops s w a
  have hb : build settings = .ok (ofSettings settings) := rfl
  have h₁ : Run (ofSettings settings) (ops.take 1) _ := .snoc .nil trivial
  have hrun : Run (ofSettings settings) ops s := .snoc h₁ trivial
  have hsound : s.Sound := hrun.sound (sound_ofSettings settings)
  have hrounds : a.Rounds 10 w :=
    ⟨hsound, by decide, ⟨⟨⟨1, 1⟩, .waiting, [1], 7, 1⟩, by decide, rfl, .looking rfl rfl⟩, rfl,
      9, by decide, by decide⟩
  exact ⟨hb, hrun, by decide, by decide, by decide, by decide, hrounds.endless⟩

end Service

end QueryAdmission
