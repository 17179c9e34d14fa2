import QueryAdmission.Proofs.Turn

/-!
# Whole workloads

The workers of a feasible workload proceed section by section, in any order (`Workload.Shift`). What
the timeline shows are executions of workers that own the tables of their queries, so that it sees
no two of them on one table, and no more of them than there are slots (`Workload.Watched`). Once all
workers are over, they have succeeded, and nothing is left of their queries
(`Workload.all_succeed`).
-/

namespace QueryAdmission

/-- Of two partial functions, the one that gives more gives the larger multiset. -/
lemma filterMap_le_filterMap_of_forall {α β : Type} {f g : α → Option β} {s : Multiset α}
    (h : ∀ a ∈ s, ∀ b ∈ f a, b ∈ g a) : s.filterMap f ≤ s.filterMap g := by
  induction s using Multiset.induction with
  | empty => exact le_refl _
  | cons a s ih =>
    have hs := ih fun b hb => h b (Multiset.mem_cons_of_mem hb)
    rcases hf : f a with _ | b
    · rw [Multiset.filterMap_cons_none _ _ hf]
      exact hs.trans (Multiset.filterMap_le_filterMap _ (Multiset.le_cons_self s a))
    · have hg : g a = some b := h a (Multiset.mem_cons_self a s) b hf
      rw [Multiset.filterMap_cons_some _ _ _ hf, Multiset.filterMap_cons_some _ _ _ hg]
      exact (Multiset.cons_le_cons_iff b).2 hs

namespace Worker

/-- The labels of those executions of the worker that the timeline has seen begin. -/
def labels (rounds : Nat) (w : Worker) : Multiset String :=
  (Multiset.range (w.begun rounds)).map (Workload.label w.number)

lemma mem_run? {w : Worker} {e : Errand} {k : QueryKey} :
    (e, k) ∈ w.run? ↔ ∃ r, w.phase = .departing r e (some k) := by
  rw [run?]
  cases hp : w.phase with
  | departing r e key => cases key <;> simp
  | opening | ready | starting | entering | arriving => simp
  | leaving | finishing | closing | «over» => simp

end Worker

namespace Workload

variable {load : Workload} {world : World MemoryHost} {service : Service} {floor : Floor}
  {w v : Worker} {ws others : Multiset Worker} {e : Errand} {r : Nat} {key : Option QueryKey}

/-! ### Workers inside an execution -/

/-- A worker inside an execution has a query that runs, and owns the tables of the query. -/
lemma Crew.executing (h : load.Crew world ws) (hv : v ∈ ws)
    (hp : v.phase = .arriving r e key ∨ v.phase = .departing r e key) :
    key = some ⟨v.session, r + 1⟩ ∧ e.label = label v.number r ∧
      world.service.status? ⟨v.session, r + 1⟩ = some .running ∧
      ∀ u ∈ e.tables, world.host.locks.owner u = some v.session := by
  have hruns : Worker.Runs load (world.session? v.session) v.number v.session r e key 1 := by
    have hf := h.fits v hv
    rw [Worker.Fits] at hf
    rcases hp with hp | hp <;> rw [hp] at hf <;> exact hf
  obtain ⟨-, he, hkey, locked, hlocked, hs⟩ := hruns
  have hin := h.ordered.present _ _ hs
  refine ⟨hkey, (errand?_eq_some he).1, ?_, fun u hu => ?_⟩
  · exact hin.running _ (Session.mem_keys.2 ⟨locked, rfl⟩)
  · exact hin.owns_locked (hlocked hu)

/-- What holds of the executions that the timeline shows. -/
lemma Crew.mem_runs (h : load.Crew world ws) (hv : v ∈ ws) {k : QueryKey} (hr : (e, k) ∈ v.run?) :
    v.seat? = some k.session ∧ e.label ∈ Set.range (label v.number) ∧
      world.service.status? k = some .running ∧
      ∀ u ∈ e.tables, world.host.locks.owner u = some k.session := by
  obtain ⟨r, hp⟩ := Worker.mem_run?.1 hr
  obtain ⟨hk, hl, hst, ho⟩ := h.executing hv (.inr hp)
  cases hk
  exact ⟨by simp [Worker.seat?, hp], ⟨r, hl.symm⟩, hst, ho⟩

/-- There are no more executions than slots: their queries run. -/
lemma Crew.runs_le (h : load.Crew world ws) :
    (ws.filterMap Worker.run?).card ≤ load.settings.maxConcurrent.toNat := by
  let keys := (ws.filterMap Worker.run?).map Prod.snd
  have hseats : keys.map QueryKey.session ≤ ws.filterMap Worker.seat? := by
    rw [Multiset.map_map, Multiset.map_filterMap]
    refine filterMap_le_filterMap_of_forall fun v hv id hid => ?_
    obtain ⟨⟨e, k⟩, hr, rfl⟩ := Option.map_eq_some_iff.1 hid
    exact (h.mem_runs hv hr).1
  have hnodup : keys.Nodup := (Multiset.nodup_of_le hseats h.seats).of_map _
  have hsub : keys ≤ ↑((world.service.records.filter (·.status = .running)).map (·.key)) := by
    refine (Multiset.le_iff_subset hnodup).2 fun k hk => ?_
    obtain ⟨⟨e, k⟩, hr, rfl⟩ := Multiset.mem_map.1 hk
    obtain ⟨v, hv, hr⟩ := (Multiset.mem_filterMap _ _).1 hr
    exact Multiset.mem_coe.2 ((Traffic.mem_keys_filter h.ordered _).2 (h.mem_runs hv hr).2.2.1)
  have hsound := h.ordered.sound
  calc
    (ws.filterMap Worker.run?).card = keys.card := (Multiset.card_map _ _).symm
    _ ≤ (world.service.records.filter (·.status = .running)).length := by
      simpa using Multiset.card_le_card hsub
    _ = world.service.records.countP (·.status = .running) := List.countP_eq_length_filter.symm
    _ ≤ world.service.schedule.slotsInUse := by
      refine List.countP_mono_left fun r _ hr => ?_
      simp [Record.holdsSlot, of_decide_eq_true hr]
    _ = world.service.running := hsound.running_eq.symm
    _ ≤ world.service.slots := hsound.running_le
    _ = load.settings.maxConcurrent.toNat := by rw [Service.slots, h.settings_eq]

/-- A worker may go on without a section on sessions or on the scheduler. -/
lemma Crew.recast (h : load.Crew world (w ::ₘ others)) {p : Worker.Phase}
    (hact : Worker.activity? { w with phase := p } = w.activity?)
    (hseat : w.seat? = some w.session)
    (hseat' : Worker.seat? { w with phase := p } = some w.session)
    (hk : Worker.key? { w with phase := p } = w.key?)
    (hended : Worker.ended load.rounds { w with phase := p } = w.ended load.rounds)
    (hfits : Worker.Fits load (world.session? w.session) { w with phase := p })
    (hopen : Worker.isClosing { w with phase := p } = false) :
    load.Crew world ({ w with phase := p } ::ₘ others) := by
  have ht : traffic world ({ w with phase := p } ::ₘ others) = traffic world (w ::ₘ others) := by
    rw [traffic, traffic, Multiset.filterMap_cons, Multiset.filterMap_cons, hact]
  exact h.sequel {
    ordered := by
      rw [ht]
      exact h.ordered
    surveying := by
      rw [ht]
      exact h.surveying
    quiet := h.quiet
    settings_eq := rfl
    turnover := by
      rw [hk, hended]
      exact .level (.refl _)
    number_eq := rfl
    free := h.others_ne hseat
    stays := fun _ hs => Worker.eq_of_mem_seat? (w := w) hs
    elsewhere := fun _ _ => ⟨rfl, fun _ _ => .refl _⟩
    seated := fun _ => hseat'
    fits := hfits
    bare := fun hc => absurd hc (ne_true_of_eq_false hopen) }

/-! ### The timeline -/

/-- A crew at any time, and the timeline that watches it. -/
structure Watched (load : Workload) (floor : Floor) (ws : Multiset Worker) : Prop where
  crew : load.Crew floor.world ws
  shows : floor.timeline.Shows ((ws.filterMap Worker.run?).map Prod.fst)
  max_le : floor.timeline.maxConcurrent ≤ load.settings.maxConcurrent.toNat
  started_eq : (↑floor.timeline.started : Multiset String) = ws.bind (Worker.labels load.rounds)

/-- A section that the timeline does not see. -/
lemma Watched.proceeds (h : load.Watched floor (w ::ₘ others)) (hr : w.run? = none)
    (hp : load.Proceeds floor w others) :
    load.Watched (load.step floor w).2.1 ((load.step floor w).2.2 ::ₘ others) := by
  obtain ⟨world', w', hstep, hseq, hr', hbegun⟩ := hp
  rw [hstep]
  refine ⟨h.crew.sequel hseq, ?_, h.max_le, ?_⟩
  · have hs := h.shows
    rw [Multiset.filterMap_cons_none _ _ hr] at hs
    rw [Multiset.filterMap_cons_none _ _ hr']
    exact hs
  · have hl : w'.labels load.rounds = w.labels load.rounds := by
      rw [Worker.labels, Worker.labels, hbegun, hseq.number_eq]
    have hs := h.started_eq
    rw [Multiset.cons_bind] at hs ⊢
    rwa [hl]

/-- A worker goes into its execution, beside which no other one is on its tables. -/
lemma Watched.arriving (h : load.Watched floor (w ::ₘ others)) (hp : w.phase = .arriving r e key) :
    load.Watched (load.step floor w).2.1 ((load.step floor w).2.2 ::ₘ others) := by
  have hself := Multiset.mem_cons_self w others
  obtain ⟨rfl, hlabel, -, howner⟩ := h.crew.executing hself (.inl hp)
  have hseat : w.seat? = some w.session := by simp [Worker.seat?, hp]
  have hfits := h.crew.fits w hself
  rw [Worker.Fits, hp] at hfits
  let w' : Worker := { w with phase := .departing r e (some ⟨w.session, r + 1⟩) }
  have hstep : (load.step floor w).2
      = ({ floor with timeline := floor.timeline.enter e.label e.tables }, w') := by
    simp [step, advance, hp, w']
  have hcrew : load.Crew floor.world (w' ::ₘ others) := by
    refine h.crew.recast ?_ hseat rfl ?_ ?_ hfits rfl
    · simp [Worker.activity?, hp]
    · simp [Worker.key?, hp]
    · simp [Worker.ended, hp]
  have hshows := h.shows
  rw [Multiset.filterMap_cons_none _ _ (by simp [Worker.run?, hp])] at hshows
  have hruns : ((w' ::ₘ others).filterMap Worker.run?).map Prod.fst
      = e ::ₘ (others.filterMap Worker.run?).map Prod.fst := by
    rw [Multiset.filterMap_cons_some _ _ _ (by rfl), Multiset.map_cons]
  rw [hstep]
  refine ⟨hcrew, ?_, ?_, ?_⟩
  · rw [hruns]
    refine hshows.enter fun e' he' u hu hu' => ?_
    obtain ⟨⟨_, k⟩, hr, rfl⟩ := Multiset.mem_map.1 he'
    obtain ⟨v, hv, hr⟩ := (Multiset.mem_filterMap _ _).1 hr
    obtain ⟨hvs, -, -, ho⟩ := h.crew.mem_runs (Multiset.mem_cons_of_mem hv) hr
    have hk : k.session = w.session := Option.some.inj ((ho u hu).symm.trans (howner u hu'))
    rw [hk] at hvs
    exact h.crew.others_ne hseat ((Multiset.mem_filterMap _ _).2 ⟨v, hv, hvs⟩)
  · have hle := hcrew.runs_le
    have hcard := congrArg Multiset.card hruns
    rw [Multiset.card_map, Multiset.card_cons, ← hshows.concurrent_eq] at hcard
    exact Nat.max_le.2 ⟨h.max_le, hcard ▸ hle⟩
  · have hs := h.started_eq
    have hl : w'.labels load.rounds = e.label ::ₘ w.labels load.rounds := by
      simp [Worker.labels, Worker.begun, hp, w', hlabel, Multiset.range_succ]
    rw [Multiset.cons_bind] at hs ⊢
    rw [hl, Multiset.cons_add, ← hs]
    exact Multiset.coe_eq_coe.2 (List.perm_append_singleton _ _)

/-- A worker comes out of its execution. -/
lemma Watched.departing (h : load.Watched floor (w ::ₘ others))
    (hp : w.phase = .departing r e key) :
    load.Watched (load.step floor w).2.1 ((load.step floor w).2.2 ::ₘ others) := by
  have hself := Multiset.mem_cons_self w others
  obtain ⟨rfl, hlabel, -, -⟩ := h.crew.executing hself (.inr hp)
  have hfits := h.crew.fits w hself
  rw [Worker.Fits, hp] at hfits
  let w' : Worker := { w with phase := .leaving r (some ⟨w.session, r + 1⟩) }
  have hstep : (load.step floor w).2
      = ({ floor with timeline := floor.timeline.exit e.label e.tables }, w') := by
    simp [step, advance, hp, w']
  have hcrew : load.Crew floor.world (w' ::ₘ others) := by
    refine h.crew.recast ?_ (by simp [Worker.seat?, hp]) rfl ?_ ?_ ⟨e, hfits⟩ rfl
    · simp [Worker.activity?, hp]
    · simp [Worker.key?, hp]
    · simp [Worker.ended, hp]
  have hshows := h.shows
  rw [Multiset.filterMap_cons_some _ _ _ (Worker.mem_run?.2 ⟨r, hp⟩), Multiset.map_cons] at hshows
  rw [hstep]
  refine ⟨hcrew, ?_, h.max_le, ?_⟩
  · rw [Multiset.filterMap_cons_none _ _ (by rfl)]
    refine hshows.exit fun e' he' hl => ?_
    obtain ⟨⟨_, k⟩, hr, rfl⟩ := Multiset.mem_map.1 he'
    obtain ⟨v, hv, hr⟩ := (Multiset.mem_filterMap _ _).1 hr
    obtain ⟨-, ⟨r', hr'⟩, -⟩ := h.crew.mem_runs (Multiset.mem_cons_of_mem hv) hr
    have hn : v.number = w.number := (label_inj.1 (hr'.trans (hl.trans hlabel))).1
    have hd : ((w ::ₘ others).map Worker.number).Nodup := by
      rw [h.crew.numbers]
      exact Multiset.nodup_range _
    rw [Multiset.map_cons, Multiset.nodup_cons] at hd
    exact hd.1 (hn ▸ Multiset.mem_map_of_mem _ hv)
  · have hs := h.started_eq
    have hl : w'.labels load.rounds = w.labels load.rounds := by
      simp [Worker.labels, Worker.begun, hp, w']
    rw [Multiset.cons_bind] at hs ⊢
    rwa [hl]

/-- Every section of a worker keeps what holds of the crew and its timeline. -/
lemma Watched.step (h : load.Watched floor (w ::ₘ others)) (hl : load.Feasible) :
    load.Watched (load.step floor w).2.1 ((load.step floor w).2.2 ::ₘ others) := by
  have unseen (hp : ∀ r e key, w.phase ≠ .departing r e key) : w.run? = none := by
    rw [Option.eq_none_iff_forall_ne_some]
    rintro ⟨e, k⟩ hr
    obtain ⟨r, hr⟩ := Worker.mem_run?.1 hr
    exact hp r e _ hr
  cases hp : w.phase with
  | opening => exact h.proceeds (unseen (by simp [hp])) (proceeds_opening h.crew hp)
  | ready r => exact h.proceeds (unseen (by simp [hp])) (proceeds_ready h.crew hl hp)
  | starting r e c => exact h.proceeds (unseen (by simp [hp])) (proceeds_starting h.crew hl hp)
  | entering r e key => exact h.proceeds (unseen (by simp [hp])) (proceeds_entering h.crew hp)
  | arriving r e key => exact h.arriving hp
  | departing r e key => exact h.departing hp
  | leaving r key => exact h.proceeds (unseen (by simp [hp])) (proceeds_leaving h.crew hp)
  | finishing r c => exact h.proceeds (unseen (by simp [hp])) (proceeds_finishing h.crew hp)
  | closing succeeded c => exact h.proceeds (unseen (by simp [hp])) (proceeds_closing h.crew hp)
  | «over» succeeded =>
    have hstep : (load.step floor w).2 = (floor, w) := by
      obtain ⟨n, id, phase⟩ := w
      obtain rfl : phase = .over succeeded := hp
      rfl
    rw [hstep]
    exact h

/-! ### Any order of sections -/

/-- The floor and the workers after sections of the workers in any order. -/
inductive Shift (load : Workload) (service : Service) : Floor → Multiset Worker → Prop
  | nil : Shift load service (load.floor service) load.crew
  | snoc {floor : Floor} {w : Worker} {others : Multiset Worker}
      (h : Shift load service floor (w ::ₘ others)) :
      Shift load service (load.step floor w).2.1 ((load.step floor w).2.2 ::ₘ others)

/-- A worker that goes on until it sleeps is one way to order the sections. -/
lemma Shift.runWorker (fuel : Nat) (h : load.Shift service floor (w ::ₘ others)) :
    load.Shift service (load.runWorker fuel floor w).1
      ((load.runWorker fuel floor w).2 ::ₘ others) := by
  induction fuel generalizing floor w with
  | zero => exact h
  | succ fuel ih =>
    have hstep := h.snoc
    rw [Workload.runWorker]
    rcases hs : load.step floor w with ⟨awake, floor', w'⟩
    rw [hs] at hstep
    cases awake with
    | true => exact ih hstep
    | false => exact hstep

/-- Workers that take turns are one way to order the sections. -/
lemma Shift.runShift {crew : List Worker} (fuel : Nat)
    (h : load.Shift service floor (↑crew + others)) :
    load.Shift service (load.runShift fuel floor crew).1
      (↑(load.runShift fuel floor crew).2 + others) := by
  induction crew generalizing floor others with
  | nil => exact h
  | cons w crew ih =>
    rw [← Multiset.cons_coe, Multiset.cons_add] at h
    have hworker := h.runWorker fuel
    rw [← Multiset.add_cons] at hworker
    have hcrew := ih hworker
    rw [Multiset.add_cons, ← Multiset.cons_add, Multiset.cons_coe] at hcrew
    exact hcrew

lemma Shift.runShifts {crew : List Worker} (fuel shifts : Nat)
    (h : load.Shift service floor ↑crew) :
    load.Shift service (load.runShifts fuel shifts floor crew).1
      ↑(load.runShifts fuel shifts floor crew).2 := by
  induction shifts generalizing floor crew with
  | zero => exact h
  | succ shifts ih =>
    rw [Workload.runShifts]
    split
    · exact h
    · rw [← add_zero (crew : Multiset Worker)] at h
      have hcrew := h.runShift fuel
      rw [add_zero] at hcrew
      exact ih hcrew

/-- A worker that has not begun has nothing. -/
lemma eq_zero_of_crew {β : Type} {f : Worker → Option β}
    (hf : ∀ w : Worker, w.phase = .opening → f w = none) :
    (load.crew : Multiset Worker).filterMap f = 0 := by
  refine Multiset.eq_zero_of_forall_notMem fun b hb => ?_
  obtain ⟨w, hw, hfw⟩ := (Multiset.mem_filterMap _ _).1 hb
  obtain ⟨n, -, rfl⟩ := List.mem_map.1 hw
  rw [hf _ rfl] at hfw
  cases hfw

lemma ledger_crew : load.ledger load.crew = (Service.ofSettings load.settings).ledger := by
  simp [ledger, crew, Worker.ended, Worker.inFlight, Worker.key?, Function.comp_def,
    Service.ledger, Service.ofSettings, Service.records, Schedule.empty, Roster.empty, Tally.zero]

/-- Before anything has happened. -/
lemma watched_crew (hb : Service.build load.settings = .ok service) :
    load.Watched (load.floor service) load.crew := by
  have opening {w : Worker} (hw : w ∈ (load.crew : Multiset Worker)) : w.phase = .opening := by
    obtain ⟨n, -, rfl⟩ := List.mem_map.1 hw
    rfl
  have hund : traffic (load.floor service).world load.crew
      = Traffic.ofService service (.ofList load.views) := by
    rw [traffic, eq_zero_of_crew fun w hw => by simp [Worker.activity?, hw]]
    rfl
  have hservice := (Service.build_eq_ok hb).1
  refine ⟨⟨?_, ?_, rfl, ?_, ?_, ?_, ?_, ?_, ?_, ?_, ?_⟩, ?_, Nat.zero_le _, ?_⟩
  · rw [hund]
    exact Traffic.ordered_ofService hb _
  · rw [hund]
    exact ⟨rfl, fun a ha => absurd ha (Multiset.notMem_zero a)⟩
  · rw [hservice]
    rfl
  · rw [hservice, ledger_crew]
    rfl
  · simp [crew, Multiset.range, Function.comp_def]
  · rw [eq_zero_of_crew fun w hw => by simp [Worker.seat?, hw]]
    exact Multiset.nodup_zero
  · exact fun id hid => absurd rfl hid
  · intro w hw
    rw [Worker.Fits, opening hw]
    trivial
  · intro w hw k hk
    simp [Worker.key?, opening hw] at hk
  · intro w hw hc
    simp [Worker.isClosing, opening hw] at hc
  · rw [eq_zero_of_crew fun w hw => by simp [Worker.run?, hw]]
    exact Timeline.shows_empty
  · refine (Multiset.eq_zero_of_forall_notMem fun label hl => ?_).symm
    obtain ⟨w, hw, hl⟩ := Multiset.mem_bind.1 hl
    simp [Worker.labels, Worker.begun, opening hw] at hl

lemma Shift.watched (hl : load.Feasible) (hb : Service.build load.settings = .ok service)
    (h : load.Shift service floor ws) : load.Watched floor ws := by
  induction h with
  | nil => exact watched_crew hb
  | snoc _ ih => exact ih.step hl

/-! ### The end -/

/-- A worker that is over. -/
lemma Crew.over (h : load.Crew world ws) (hw : w ∈ ws) (hover : isOver w) :
    w.phase = .over true := by
  rw [isOver] at hover
  split at hover
  · next succeeded hp =>
    have hf := h.fits w hw
    rw [Worker.Fits, hp] at hf
    rw [hp, show succeeded = true from hf]
  · cases hover

/-- When all workers are over, every session is closed. -/
lemma Crew.session?_eq_none (h : load.Crew world ws) (hover : ∀ w ∈ ws, w.phase = .over true)
    (id : SessionId) : world.session? id = none := by
  by_contra hid
  obtain ⟨w, hw, hs⟩ := (Multiset.mem_filterMap _ _).1 (h.housed id hid)
  simp [Worker.seat?, hover w hw] at hs

lemma Crew.owners_eq_nil (h : load.Crew world ws) (hover : ∀ w ∈ ws, w.phase = .over true) :
    world.host.locks.owners = [] := by
  rcases hl : world.host.locks.owners with _ | ⟨⟨u, id⟩, owners⟩
  · rfl
  · have hz := (h.ordered.absent id (h.session?_eq_none hover id)).2.1 u
    have ho : world.host.locks.owner u = some id := by
      rw [LockTable.owner, hl, lookup_cons_eq_ite, if_pos rfl]
    exact absurd ho (LockTable.share_eq_zero.1 hz)

/-- When all workers are over, all queries have come and gone. -/
lemma Crew.ledger_of_over (h : load.Crew world ws) (hover : ∀ w ∈ ws, w.phase = .over true) :
    world.service.ledger = ⟨load.workers * load.rounds, 0, load.workers * load.rounds, 0, 0, 0,
      load.settings.maxAffected.toNat, false⟩ := by
  have hcard : ws.card = load.workers := by simpa using congrArg Multiset.card h.numbers
  have hin : ws.map Worker.inFlight = ws.map fun _ => 0 :=
    Multiset.map_congr rfl fun w hw => by simp [Worker.inFlight, Worker.key?, hover w hw]
  have hended : ws.map (Worker.ended load.rounds) = ws.map fun _ => load.rounds :=
    Multiset.map_congr rfl fun w hw => by simp [Worker.ended, hover w hw]
  rw [h.ledger_eq, ledger, Multiset.sum_map_add, hended, hin]
  simp [hcard]

/-- When all workers are over, each has begun the execution of all its queries. -/
lemma Watched.started_of_over (h : load.Watched floor ws)
    (hover : ∀ w ∈ ws, w.phase = .over true) :
    (↑floor.timeline.started : Multiset String)
      = (Multiset.range load.workers ×ˢ Multiset.range load.rounds).map fun p => label p.1 p.2 := by
  have hlabels : ws.bind (Worker.labels load.rounds)
      = ws.bind fun w => (Multiset.range load.rounds).map (label w.number) :=
    Multiset.bind_congr fun w hw => by simp [Worker.labels, Worker.begun, hover w hw]
  calc
    _ = (ws.map Worker.number).bind fun n => (Multiset.range load.rounds).map (label n) := by
      rw [h.started_eq, hlabels, Multiset.bind_map]
    _ = ((Multiset.range load.workers).bind fun n =>
          (Multiset.range load.rounds).map (Prod.mk n)).map fun p => label p.1 p.2 := by
      rw [h.crew.numbers, Multiset.map_bind]
      refine Multiset.bind_congr fun n _ => ?_
      rw [Multiset.map_map]
      rfl

/-- In every interleaving of the sections of all workers, where each worker executes one query after
the other in a session of its own, and there is a place for a query of each: whenever all workers
are over, every one of them has succeeded, each query was executed once, no two executions on one
table and no more than there are slots were open at the same time, all queries were registered and
completed and none was rejected, swept or cancelled, and no slot, no record and no lock is left. -/
theorem all_succeed (hb : Service.build load.settings = .ok service)
    (hw : load.workers ≤ load.settings.maxQueries.toNat) (hv : load.views ≠ [])
    (hd : (load.views.map Prod.fst).Nodup) (h : load.Shift service floor ws)
    (hover : ∀ w ∈ ws, isOver w) :
    ws.card = load.workers ∧ (∀ w ∈ ws, hasSucceeded w) ∧
      floor.timeline.started.length = load.workers * load.rounds ∧
      (∀ n < load.workers, ∀ r < load.rounds, floor.timeline.started.count (label n r) = 1) ∧
      floor.timeline.violations = [] ∧
      floor.timeline.maxConcurrent ≤ load.settings.maxConcurrent.toNat ∧
      floor.world.service.tally.registered = load.workers * load.rounds ∧
      floor.world.service.tally.completed = load.workers * load.rounds ∧
      floor.world.service.tally.rejected = 0 ∧ floor.world.service.tally.swept = 0 ∧
      floor.world.service.tally.cancelled = 0 ∧ floor.world.service.running = 0 ∧
      floor.world.service.records = [] ∧ floor.world.host.locks.owners = [] := by
  have hwatched := h.watched ⟨(Service.build_eq_ok hb).2, hw, hv, hd⟩ hb
  have hcrew := hwatched.crew
  have hover' (w : Worker) (hw : w ∈ ws) : w.phase = .over true := hcrew.over hw (hover w hw)
  have hled := hcrew.ledger_of_over hover'
  have hrecords : floor.world.service.records = [] :=
    List.length_eq_zero_iff.1 (congrArg Ledger.inFlight hled)
  have hstarted := hwatched.started_of_over hover'
  have hnodup : floor.timeline.started.Nodup := by
    rw [← Multiset.coe_nodup, hstarted]
    refine Multiset.Nodup.map ?_ (.product (Multiset.nodup_range _) (Multiset.nodup_range _))
    intro p q hpq
    exact Prod.ext_iff.2 (label_inj.1 hpq)
  refine ⟨?_, ?_, ?_, ?_, hwatched.shows.violations_eq, hwatched.max_le,
    congrArg Ledger.registered hled, congrArg Ledger.completed hled, congrArg Ledger.rejected hled,
    congrArg Ledger.swept hled, congrArg Ledger.cancelled hled, ?_, hrecords,
    hcrew.owners_eq_nil hover'⟩
  · simpa using congrArg Multiset.card hcrew.numbers
  · intro w hw
    simp [hasSucceeded, hover' w hw]
  · simpa using congrArg Multiset.card hstarted
  · intro n hn r hr
    refine List.count_eq_one_of_mem hnodup ?_
    rw [← Multiset.mem_coe, hstarted]
    exact Multiset.mem_map.2 ⟨(n, r), Multiset.mem_product.2 ⟨by simpa, by simpa⟩, rfl⟩
  · have hrunning : floor.world.service.running
        = floor.world.service.records.countP Record.holdsSlot := hcrew.ordered.sound.running_eq
    rw [hrunning, hrecords]
    rfl

/-- Three workers with two slots, whose queries want tables of each other. -/
def contended : Workload where
  settings := { Settings.standard with maxConcurrent := 2 }
  rounds := 2
  workers := 3
  views := [(1, [10, 20]), (2, [20, 30]), (3, [40])]

/-- The contended workload, where the workers take turns of five sections. -/
theorem all_succeed_contended :
    ∃ floor ws, contended.Shift (.ofSettings contended.settings) floor ws ∧ (∀ w ∈ ws, isOver w) ∧
      floor.world.service.tally.retreats = 4 ∧ floor.timeline.maxConcurrent = 2 ∧
      (∀ w ∈ ws, hasSucceeded w) ∧ floor.timeline.started.length = 6 ∧
      floor.timeline.violations = [] ∧ floor.world.service.tally.registered = 6 ∧
      floor.world.service.tally.completed = 6 ∧ floor.world.host.locks.owners = [] := by
  let service := Service.ofSettings contended.settings
  let last := contended.runShifts 5 20 (contended.floor service) contended.crew
  have hb : Service.build contended.settings = .ok service := rfl
  have h : contended.Shift service last.1 last.2 := Shift.nil.runShifts 5 20
  have hover : ∀ w ∈ (last.2 : Multiset Worker), isOver w :=
    List.all_eq_true.1 (show last.2.all isOver = true by decide +kernel)
  obtain ⟨-, hs, hstarted, -, hviolations, -, hregistered, hcompleted, -, -, -, -, -, hlocks⟩ :=
    all_succeed hb (by decide) (by decide) (by decide) h hover
  exact ⟨last.1, last.2, h, hover, by decide +kernel, by decide +kernel, hs, hstarted, hviolations,
    hregistered, hcompleted, hlocks⟩

end Workload

end QueryAdmission
