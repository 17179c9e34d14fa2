import QueryAdmission.Proofs.Crew

/-!
# The sections of a worker

A workload is feasible if there is a place for a query of each worker (`Workload.Feasible`). Then a
section of a worker of the crew leads that worker to where it should be (`Workload.Proceeds`),
whatever the others are doing: its start is never refused and never fails, its query is ended by
itself alone, and when it closes its session nothing is left there. Entering and leaving the
timeline is left to a later module.
-/

namespace QueryAdmission

open Status (MayAdmit)

namespace Worker

/-- The execution of the worker that the timeline shows, and the key of its query. -/
def run? (w : Worker) : Option (Errand × QueryKey) :=
  match w.phase with
  | .departing _ e (some key) => some (e, key)
  | _ => none

/-- How many executions of the worker the timeline has seen begin, if it has seen so many of a
worker that has closed its session. -/
def begun (rounds : Nat) (w : Worker) : Nat :=
  match w.phase with
  | .opening => 0
  | .ready round | .starting round _ _ | .entering round _ _ | .arriving round _ _ => round
  | .departing round _ _ | .leaving round _ | .finishing round _ => round + 1
  | .closing _ _ | .over _ => rounds

end Worker

namespace Workload

variable {load : Workload} {world world' : World MemoryHost} {floor : Floor} {w w' : Worker}
  {ws others : Multiset Worker} {a : Activity} {e : Errand} {n r : Nat}

/-! ### Queries for which there is a place -/

/-- The settings are in order, there is a place for a query of each worker, and there are views, no
two of them under one number. -/
structure Feasible (load : Workload) : Prop where
  check : load.settings.check = .ok ()
  workers_le : load.workers ≤ load.settings.maxQueries.toNat
  views_ne : load.views ≠ []
  distinct : (load.views.map Prod.fst).Nodup

lemma errand?_eq_some (h : load.errand? n r = some e) :
    e.label = label n r ∧ (e.view, e.tables) ∈ load.views := by
  obtain ⟨v, hv, rfl⟩ := Option.map_eq_some_iff.1 h
  exact ⟨rfl, List.mem_of_getElem? hv⟩

lemma Feasible.exists_errand (hl : load.Feasible) (n r : Nat) :
    ∃ e, load.errand? n r = some e := by
  have hlt : (n + r) % load.views.length < load.views.length :=
    Nat.mod_lt _ (List.length_pos_iff.2 hl.views_ne)
  rw [errand?, List.getElem?_eq_getElem hlt]
  exact ⟨_, rfl⟩

lemma enforces_query (h : load.errand? n r = some e) (id : SessionId) (m : Nat) :
    (Session.plain id 0 m none false).enforces (query r e) := by
  have hl : label n r ≠ "" := by
    intro hl
    have hc := congrArg String.toList hl
    simp [label] at hc
  rw [← (errand?_eq_some h).1] at hl
  simp [Session.enforces, Session.plain, query, hl]

/-- Nobody sends a worker's query away, and it affects only one view. -/
lemma Crew.favours (h : load.Crew world ws) (hl : load.Feasible)
    (he : load.errand? n r = some e) : world.Favours (query r e) e.tables where
  isShut := congrArg Ledger.isShut h.ledger_eq
  quiet := h.quiet
  affected_le := by
    have hm : world.service.schedule.roster.maxAffected = load.settings.maxAffected.toNat :=
      congrArg Ledger.maxAffected h.ledger_eq
    obtain ⟨-, hne, -⟩ := Settings.check_eq_ok.1 hl.check
    rw [hm]
    exact Nat.pos_of_ne_zero fun hz => hne (UInt64.toNat_inj.1 hz)
  needs := by
    have hi : world.host.index = .ofList load.views := h.surveying.index_eq
    intro u hu
    show u ∈ addTables [] _
    rw [mem_addTables, hi, ViewIndex.dependencies_ofList hl.distinct (errand?_eq_some he).2]
    exact .inr hu

/-- There is a place for a query of a worker whose session has no record. -/
lemma Crew.room (h : load.Crew world (w ::ₘ others)) (hl : load.Feasible) (hw : w.key? = none) :
    world.service.records.length < world.service.schedule.roster.capacity := by
  have hin : world.service.records.length = (others.map Worker.inFlight).sum := by
    have hled := congrArg Ledger.inFlight h.ledger_eq
    rw [ledger_cons, Worker.inFlight, hw] at hled
    exact hled.trans (Nat.zero_add _)
  have hle : (others.map Worker.inFlight).sum ≤ others.card := by
    rw [← Multiset.card_map Worker.inFlight others]
    refine (Multiset.sum_le_card_nsmul _ 1 fun m hm => ?_).trans (Nat.mul_one _).le
    obtain ⟨v, -, rfl⟩ := Multiset.mem_map.1 hm
    rw [Worker.inFlight]
    cases v.key? <;> simp
  have hcard : others.card + 1 = load.workers := by
    have hn := congrArg Multiset.card h.numbers
    simpa using hn
  have hcap : world.service.schedule.roster.capacity = load.settings.maxQueries.toNat := by
    rw [← h.settings_eq]
    exact h.ordered.sound.capacity_eq
  have hle' := hl.workers_le
  omega

/-! ### What a section of a worker leads to -/

lemma Crew.others_ne (h : load.Crew world (w ::ₘ others)) (hw : w.seat? = some w.session) :
    w.session ∉ others.filterMap Worker.seat? := by
  have hn := h.seats
  rw [Multiset.filterMap_cons_some _ _ _ hw, Multiset.nodup_cons] at hn
  exact hn.1

/-- Nothing goes on in the session of a worker but what the worker does there. -/
lemma Crew.apart (h : load.Crew world (w ::ₘ others)) (hw : w.seat? = some w.session) {b : Activity}
    (hb : b ∈ others.filterMap Worker.activity?) : b.session ≠ w.session := by
  obtain ⟨v, hv, hvb⟩ := (Multiset.mem_filterMap _ _).1 hb
  obtain ⟨hbs, hseat⟩ :=
    Worker.session_eq_of_activity? (h.fits v (Multiset.mem_cons_of_mem hv)) hvb
  rw [hbs]
  intro he
  rw [he] at hseat
  exact h.others_ne hw ((Multiset.mem_filterMap _ _).2 ⟨v, hv, hseat⟩)

/-- A section of what goes on in the session of a worker, if it leads the worker where it should
be. -/
lemma Crew.sequel_of_advance (h : load.Crew world (w ::ₘ others)) (ha : w.activity? = some a)
    (ht : (traffic world (w ::ₘ others)).advance a (others.filterMap Worker.activity?)
      = traffic world' (w' ::ₘ others))
    (hto : world.service.Turnover world'.service w.key? (w.ended load.rounds) w'.key?
      (w'.ended load.rounds))
    (hn : w'.number = w.number) (hid : w'.session = w.session)
    (hseat : world'.session? w.session ≠ none → w'.seat? = some w.session)
    (hf : w'.Fits load (world'.session? w.session))
    (hb : w'.isClosing → ∀ k, k.session = w.session → world'.service.status? k = none) :
    load.Sequel world world' w w' others := by
  have hfits := h.fits w (Multiset.mem_cons_self w others)
  obtain ⟨has, hws⟩ := Worker.session_eq_of_activity? hfits ha
  have hund : (traffic world (w ::ₘ others)).underway
      = a ::ₘ others.filterMap Worker.activity? := Multiset.filterMap_cons_some _ _ _ ha
  obtain ⟨s, hs⟩ := h.ordered.proper.session?_of_mem (hund ▸ Multiset.mem_cons_self _ _)
  obtain ⟨s', hm⟩ := Activity.move_advance hs
  have hworld : world'.signals = .quiet ∧ world'.service.settings = world.service.settings := by
    have hw : world' = ((traffic world (w ::ₘ others)).advance a
        (others.filterMap Worker.activity?)).world := by rw [ht]; rfl
    rcases Traffic.advance_eq (traffic world (w ::ₘ others)) a
      (others.filterMap Worker.activity?) with he | ⟨-, -, he⟩
    · rw [hw, he]
      exact ⟨hm.quiet h.quiet, hm.alike.1⟩
    · rw [hw, he]
      exact ⟨hm.quiet h.quiet, hm.alike.1⟩
  refine ⟨?_, ?_, hworld.1, hworld.2, hto, hn, ?_, ?_, ?_, ?_, ?_, ?_⟩
  · rw [← ht]
    refine h.ordered.advance hund fun b hb hbs => ?_
    exact absurd (hbs.trans has) (h.apart hws hb)
  · rw [← ht]
    exact h.surveying.advance h.ordered hund
  · rw [hid]
    exact h.others_ne hws
  · intro id hs
    rw [hid]
    exact Worker.eq_of_mem_seat? hs
  · intro id hne
    rw [hid, ← has] at hne
    have he := h.ordered.proper.advance_elsewhere hund hne
    rw [ht] at he
    exact he
  · rwa [hid]
  · rwa [hid]
  · rwa [hid]

/-- What is begun by a worker in whose session nothing goes on. -/
lemma Crew.sequel_of_begin (h : load.Crew world (w ::ₘ others)) (hn : w.activity? = none)
    (hseat : w.seat? = some w.session) (ha : w'.activity? = some a) (hfresh : a.isFresh)
    (has : a.session = w.session) (hk : w.key? = none) (hk' : w'.key? = none)
    (he : w'.ended load.rounds = w.ended load.rounds) (hnum : w'.number = w.number)
    (hid : w'.session = w.session) (hseat' : w'.seat? = some w.session)
    (hf : w'.Fits load (world.session? w.session))
    (hb : w'.isClosing → ∀ k, k.session = w.session → world.service.status? k = none) :
    load.Sequel world world w w' others := by
  have hund : traffic world (w ::ₘ others) = ⟨world, others.filterMap Worker.activity?⟩ := by
    rw [traffic, Multiset.filterMap_cons_none _ _ hn]
  have hund' : traffic world (w' ::ₘ others)
      = ⟨world, a ::ₘ others.filterMap Worker.activity?⟩ := by
    rw [traffic, Multiset.filterMap_cons_some _ _ _ ha]
  have hopen : world.session? a.session ≠ none := by
    rw [has]
    refine (h.fits w (Multiset.mem_cons_self w others)).session?_ne_none ?_
    rw [hseat]
    exact Option.some_ne_none _
  have halone : ∀ b ∈ others.filterMap Worker.activity?, b.session = a.session →
      a.closes = false ∧ b.closes = false := fun b hb hbs =>
    absurd (hbs.trans has) (h.apart hseat hb)
  have ho := h.ordered
  have hsur := h.surveying
  rw [hund] at ho hsur
  refine ⟨?_, ?_, h.quiet, rfl, ?_, hnum, ?_, ?_, ?_, ?_, ?_, ?_⟩
  · rw [hund']
    exact ho.begin hfresh hopen halone
  · rw [hund']
    exact hsur.step ho (.begun hfresh hopen halone) fun _ he => by cases he
  · rw [hk, hk', he]
    exact .level (.refl _)
  · rw [hid]
    exact h.others_ne hseat
  · intro id hs
    rw [hid]
    exact Worker.eq_of_mem_seat? hs
  · exact fun id _ => ⟨rfl, fun k _ => .refl _⟩
  · rw [hid]
    exact fun _ => hseat'
  · rwa [hid]
  · rwa [hid]

/-- What a section of a worker's activity leads to, but for the end of a session. -/
lemma traffic_advance (hw : (a.advance world).1 = world')
    (hp : (a.advance world).2.call? = w'.activity?) (hc : w'.activity? = none → a.closes = false) :
    (traffic world (w ::ₘ others)).advance a (others.filterMap Worker.activity?)
      = traffic world' (w' ::ₘ others) := by
  rcases ha : w'.activity? with _ | b
  · rw [ha] at hp
    simp [Traffic.advance, traffic, hp, hc ha, hw, Multiset.filterMap_cons_none _ _ ha]
  · rw [ha] at hp
    simp [Traffic.advance, traffic, hp, hw, Multiset.filterMap_cons_some _ _ _ ha]

/-! ### Sections of calls -/

lemma step_starting {c c' : Start} (hp : w.phase = .starting r e c)
    (hc : (c.advance floor.world).2.call? = some c') :
    (load.step floor w).2 = ({ floor with world := (c.advance floor.world).1 },
      { w with phase := .starting r e c' }) := by
  rcases hadv : c.advance floor.world with ⟨world', c₁ | c₁ | r₁⟩ <;> rw [hadv] at hc <;> cases hc
  · simp [step, advance, hp, hadv]
  · simp [step, advance, hp, hadv]

lemma step_started {c : Start} {key : Option QueryKey} (hp : w.phase = .starting r e c)
    (hc : (c.advance floor.world).2 = .done (.ok key)) :
    (load.step floor w).2 = ({ floor with world := (c.advance floor.world).1 },
      { w with phase := .entering r e key }) := by
  rcases hadv : c.advance floor.world with ⟨world', p⟩
  rw [hadv] at hc
  simp [step, advance, hp, hadv, show p = _ from hc]

lemma step_finishing {c c' : Finish} (hp : w.phase = .finishing r c)
    (hc : (c.advance floor.world).2.call? = some c') :
    (load.step floor w).2 = ({ floor with world := (c.advance floor.world).1 },
      { w with phase := .finishing r c' }) := by
  rcases hadv : c.advance floor.world with ⟨world', c₁ | c₁ | r₁⟩ <;> rw [hadv] at hc <;> cases hc
  · simp [step, advance, hp, hadv]
  · simp [step, advance, hp, hadv]

lemma step_finished {c : Finish} (hp : w.phase = .finishing r c)
    (hc : (c.advance floor.world).2 = .done ()) :
    (load.step floor w).2 = ({ floor with world := (c.advance floor.world).1 },
      { w with phase := .ready (r + 1) }) := by
  rcases hadv : c.advance floor.world with ⟨world', p⟩
  rw [hadv] at hc
  simp [step, advance, hp, hadv, show p = _ from hc]

lemma step_closing {succeeded : Bool} {c c' : Abort} (hp : w.phase = .closing succeeded c)
    (hc : (c.advance floor.world).2.call? = some c') :
    (load.step floor w).2 = ({ floor with world := (c.advance floor.world).1 },
      { w with phase := .closing succeeded c' }) := by
  rcases hadv : c.advance floor.world with ⟨world', c₁ | c₁ | r₁⟩ <;> rw [hadv] at hc <;> cases hc
  · simp [step, advance, hp, hadv]
  · simp [step, advance, hp, hadv]

lemma step_closed {succeeded : Bool} {c : Abort} (hp : w.phase = .closing succeeded c)
    (hc : (c.advance floor.world).2 = .done ()) :
    (load.step floor w).2 = ({ floor with world := (c.advance floor.world).1.forget w.session },
      { w with phase := .over succeeded }) := by
  rcases hadv : c.advance floor.world with ⟨world', p⟩
  rw [hadv] at hc
  simp [step, advance, hp, hadv, show p = _ from hc]

/-! ### Sections that the timeline does not see -/

/-- The worker goes on as it should by a section that the timeline does not see. -/
def Proceeds (load : Workload) (floor : Floor) (w : Worker) (others : Multiset Worker) : Prop :=
  ∃ world' w', (load.step floor w).2 = ({ floor with world := world' }, w') ∧
    load.Sequel floor.world world' w w' others ∧ w'.run? = none ∧
    w'.begun load.rounds = w.begun load.rounds

section Sections

variable (h : load.Crew floor.world (w ::ₘ others)) (hl : load.Feasible)

include h

lemma Crew.fits_self : w.Fits load (floor.world.session? w.session) :=
  h.fits w (Multiset.mem_cons_self w others)

lemma proceeds_opening (hp : w.phase = .opening) : load.Proceeds floor w others := by
  have ho : (traffic floor.world others).Ordered := by
    have ho := h.ordered
    rwa [traffic, Multiset.filterMap_cons_none _ _ (by simp [Worker.activity?, hp])] at ho
  have hsur : Traffic.Surveying (.ofList load.views) (traffic floor.world others) := by
    have hs := h.surveying
    rwa [traffic, Multiset.filterMap_cons_none _ _ (by simp [Worker.activity?, hp])] at hs
  let id : SessionId := ⟨floor.world.service.opened + 1⟩
  let w' : Worker := { w with session := id, phase := .ready 0 }
  have hstep : (load.step floor w).2
      = ({ floor with world := (floor.world.openSession .backend).2 }, w') := by
    simp [step, advance, hp, w', id, World.openSession, Service.openSession]
  have hund : traffic (floor.world.openSession .backend).2 (w' ::ₘ others)
      = ⟨(floor.world.openSession .backend).2, (traffic floor.world others).underway⟩ := by
    rw [traffic, Multiset.filterMap_cons_none _ _ (by rfl)]
    rfl
  have hnew := ho.proper.session?_openSession .backend
  refine ⟨_, w', hstep, ⟨?_, ?_, h.quiet, rfl, ?_, rfl, ?_, ?_, ?_, ?_, ?_, ?_⟩, rfl, ?_⟩
  · rw [hund]
    exact ho.openSession .backend
  · rw [hund]
    exact ⟨hsur.index_eq, hsur.surveys⟩
  · have hk : w.key? = none := by simp [Worker.key?, hp]
    have he : w.ended load.rounds = 0 := by simp [Worker.ended, hp]
    rw [hk, he]
    exact .level ⟨rfl, fun _ => Iff.rfl⟩
  · intro hmem
    obtain ⟨v, hv, hs⟩ := (Multiset.mem_filterMap _ _).1 hmem
    refine (h.fits v (Multiset.mem_cons_of_mem hv)).session?_ne_none (by simp [hs]) ?_
    rw [← Worker.eq_of_mem_seat? hs]
    exact ho.proper.session?_new
  · intro i hi
    simp [Worker.seat?, hp] at hi
  · intro i hi
    refine ⟨?_, fun k _ => .refl _⟩
    exact (hnew i).trans (if_neg hi)
  · exact fun _ => rfl
  · exact ⟨Nat.zero_le _, (hnew id).trans (if_pos rfl)⟩
  · exact fun hc => absurd hc Bool.false_ne_true
  · simp [Worker.begun, hp, w']

include hl

lemma proceeds_ready {r : Nat} (hp : w.phase = .ready r) : load.Proceeds floor w others := by
  have hfits := h.fits_self
  rw [Worker.Fits, hp] at hfits
  obtain ⟨hle, hs⟩ := hfits
  have hact : w.activity? = none := by simp [Worker.activity?, hp]
  have hseat : w.seat? = some w.session := by simp [Worker.seat?, hp]
  have hk : w.key? = none := by simp [Worker.key?, hp]
  by_cases hr : r < load.rounds
  · obtain ⟨e, he⟩ := hl.exists_errand w.number r
    let w' : Worker := { w with phase := .starting r e (.ofQuery w.session (query r e)) }
    have hstep : (load.step floor w).2 = (floor, w') := by simp [step, advance, hp, hr, he, w']
    have hseq : load.Sequel floor.world floor.world w w' others := by
      refine h.sequel_of_begin hact hseat rfl rfl rfl hk rfl ?_ rfl rfl rfl ?_ ?_
      · simp [Worker.ended, hp, w']
      · rw [hs]
        exact ⟨hr, he, rfl, Start.inPlainSession_ofQuery _ _⟩
      · exact fun hc => absurd hc Bool.false_ne_true
    exact ⟨_, w', hstep, hseq, rfl, by simp [Worker.begun, hp, w']⟩
  · obtain rfl : r = load.rounds := Nat.le_antisymm hle (Nat.le_of_not_lt hr)
    let w' : Worker := { w with phase := .closing true (.ofSession w.session) }
    have hstep : (load.step floor w).2 = (floor, w') := by simp [step, advance, hp, w']
    have hin := h.ordered.present _ _ hs
    have hwithin : (traffic floor.world (w ::ₘ others)).within w.session = 0 := by
      apply Multiset.eq_zero_of_forall_notMem
      intro b hb
      obtain ⟨hb, hbs⟩ := Activity.mem_ofSession.1 hb
      rw [traffic, Multiset.filterMap_cons_none _ _ hact] at hb
      exact h.apart hseat hb hbs
    rw [hwithin] at hin
    have hseq : load.Sequel floor.world floor.world w w' others := by
      refine h.sequel_of_begin hact hseat rfl rfl rfl hk rfl ?_ rfl rfl rfl ?_ ?_
      · simp [Worker.ended, hp, w']
      · rw [hs]
        exact ⟨rfl, rfl, ⟨rfl⟩⟩
      · exact fun _ => (hin.vacated rfl).2
    exact ⟨_, w', hstep, hseq, rfl, by simp [Worker.begun, hp, w']⟩

/-- The start of a worker's query goes on, or installs the query. -/
lemma Crew.start_goesOn_or_installs {r : Nat} {e : Errand} {c : Start}
    (hp : w.phase = .starting r e c) :
    ∃ s', (c.advance floor.world).1.session? w.session = some s' ∧
      ((∃ c', (c.advance floor.world).2.call? = some c' ∧ c'.session = w.session ∧
          c'.InPlainSession (query r e) e.tables r (some s') ∧
          ∀ m, floor.world.service.Turnover (c.advance floor.world).1.service c.key? m c'.key? m) ∨
        ∃ locked, (c.advance floor.world).2 = .done (.ok (some ⟨w.session, r + 1⟩)) ∧
          e.tables ⊆ locked ∧
          s' = .plain w.session 0 (r + 1) (some ⟨⟨w.session, r + 1⟩, locked⟩) false ∧
          (c.advance floor.world).1.service = floor.world.service ∧
          c.key? = some ⟨w.session, r + 1⟩) := by
  have hfits := h.fits_self
  rw [Worker.Fits, hp] at hfits
  obtain ⟨-, he, hid, hc⟩ := hfits
  obtain ⟨s, hs⟩ := Option.ne_none_iff_exists'.1 hc.session?_ne_none
  have hseat : w.seat? = some w.session := by simp [Worker.seat?, hp]
  have hund : (traffic floor.world (w ::ₘ others)).underway
      = .start c true ::ₘ others.filterMap Worker.activity? :=
    Multiset.filterMap_cons_some _ _ _ (by simp [Worker.activity?, hp])
  have hself := Multiset.mem_cons_self w others
  rw [← hid] at hs
  have hin := h.ordered.inOrder_cons hund hs
  obtain ⟨s', hm⟩ := Start.move_advance hs
  have hsur := h.surveying.surveys (.start c true) (hund ▸ Multiset.mem_cons_self _ _)
  rw [← h.surveying.index_eq] at hsur
  rw [← hid, hs] at hc
  have hk : w.key? = c.key? := by simp [Worker.key?, hp]
  have hheld := h.held w hself
  rw [hk] at hheld
  have hown (hne : c.phase ≠ .entering) (u : TableId)
      (hu : floor.world.host.locks.owner u = some c.session) : u ∈ c.taken := by
    rw [← World.id_of_session? hs] at hu
    refine hin.mem_taken hne (fun b hb => ?_) hu
    obtain ⟨hb, hbs⟩ := Activity.mem_ofSession.1 hb
    exact absurd (hbs.trans hid) (h.apart hseat hb)
  have hplain := hm.goesOn_or_installs (h.favours hl he) hc (fun id => enforces_query he id r) hsur
    (hin.fitsSession _ (Multiset.mem_cons_self _ _)).fitsRoster hheld
    (fun hn => h.room hl (hk.trans hn)) hown
  rw [← hid]
  refine ⟨s', hm.session?_eq hs, ?_⟩
  rcases hplain with ⟨c', hc', hplain⟩ | hdone
  · exact .inl ⟨c', hc', hm.session_eq hc', hplain⟩
  · exact .inr hdone

omit hl in
/-- A section of a worker's activity that leaves the session open. -/
lemma proceeds_of_advance {p : Worker.Phase} (hact : w.activity? = some a)
    (hcall : (a.advance floor.world).2.call? = Worker.activity? { w with phase := p })
    (hstep : (load.step floor w).2
      = ({ floor with world := (a.advance floor.world).1 }, { w with phase := p }))
    (hto : floor.world.service.Turnover (a.advance floor.world).1.service w.key?
      (w.ended load.rounds) (Worker.key? { w with phase := p })
      (Worker.ended load.rounds { w with phase := p }))
    (hopen : (Worker.activity? { w with phase := p }).isSome ∨ a.closes = false)
    (hseat : Worker.seat? { w with phase := p } = some w.session)
    (hrun : Worker.run? { w with phase := p } = none)
    (hbegun : Worker.begun load.rounds { w with phase := p } = w.begun load.rounds)
    (hfits : Worker.Fits load ((a.advance floor.world).1.session? w.session) { w with phase := p })
    (hbare : Worker.isClosing { w with phase := p } = false ∨ ∀ k, k.session = w.session →
      (a.advance floor.world).1.service.status? k = none) : load.Proceeds floor w others := by
  have ht : (traffic floor.world (w ::ₘ others)).advance a (others.filterMap Worker.activity?)
      = traffic (a.advance floor.world).1 ({ w with phase := p } ::ₘ others) :=
    traffic_advance rfl hcall fun hn => hopen.resolve_left (Option.not_isSome_iff_eq_none.2 hn)
  have hseq := h.sequel_of_advance hact ht hto rfl rfl (fun _ => hseat) hfits fun hc =>
    hbare.resolve_left (ne_false_of_eq_true hc)
  exact ⟨_, _, hstep, hseq, hrun, hbegun⟩

lemma proceeds_starting {r : Nat} {e : Errand} {c : Start} (hp : w.phase = .starting r e c) :
    load.Proceeds floor w others := by
  have hfits := h.fits_self
  rw [Worker.Fits, hp] at hfits
  obtain ⟨hr, he, hid, -⟩ := hfits
  have hact : w.activity? = some (.start c true) := by simp [Worker.activity?, hp]
  have hk : w.key? = c.key? := by simp [Worker.key?, hp]
  have hended : w.ended load.rounds = r := by simp [Worker.ended, hp]
  have hbegun : w.begun load.rounds = r := by simp [Worker.begun, hp]
  obtain ⟨s', hs', ⟨c', hc', hid', hplain, hto⟩ | ⟨locked, hdone, hlocked, rfl, hsv, hkey⟩⟩ :=
    h.start_goesOn_or_installs hl hp
  · refine proceeds_of_advance h hact (p := .starting r e c') ?_ (step_starting hp hc') ?_
      (.inl rfl) rfl rfl hbegun.symm ?_ (.inl rfl)
    · exact Activity.call?_ofStart hc'
    · rw [hk, hended]
      exact hto r
    · exact hs'.symm ▸ ⟨hr, he, hid', hplain⟩
  · refine proceeds_of_advance h hact (p := .entering r e (some ⟨w.session, r + 1⟩)) ?_
      (step_started hp hdone) ?_ (.inl rfl) rfl rfl hbegun.symm ?_ (.inl rfl)
    · show (Activity.ofStart c.session true (c.advance floor.world).2).call? = _
      rw [hdone, hid]
      rfl
    · rw [hk, hkey, hended]
      exact .level (hsv ▸ .refl _)
    · exact hs'.symm ▸ ⟨hr, he, rfl, locked, hlocked, rfl⟩

omit hl in
lemma proceeds_entering {r : Nat} {e : Errand} {key : Option QueryKey}
    (hp : w.phase = .entering r e key) : load.Proceeds floor w others := by
  have hfits := h.fits_self
  rw [Worker.Fits, hp] at hfits
  obtain ⟨hr, he, hkey, locked, hlocked, hs⟩ := hfits
  have hact : w.activity? = some (.entering w.session key) := by simp [Worker.activity?, hp]
  have hadv : (Activity.entering w.session key).advance floor.world
      = (floor.world.update w.session Session.enter, .next (.inside w.session key)) := by
    simp [Activity.advance, World.isGuarded, hs, Session.plain]
  refine proceeds_of_advance h hact (p := .arriving r e key) ?_ ?_ ?_ (.inl rfl) rfl rfl ?_ ?_
    (.inl rfl)
  · rw [hadv]
    rfl
  · simp [step, advance, hp, hadv]
  · rw [hadv]
    simp only [Worker.key?, Worker.ended, hp]
    exact .level (.refl _)
  · simp [Worker.begun, hp]
  · rw [hadv]
    show Worker.Fits load (World.session? _ _) _
    rw [World.session?_update_self hs (f := Session.enter) fun _ => rfl]
    exact ⟨hr, he, hkey, locked, hlocked, rfl⟩

omit hl in
lemma proceeds_leaving {r : Nat} {key : Option QueryKey} (hp : w.phase = .leaving r key) :
    load.Proceeds floor w others := by
  have hfits := h.fits_self
  rw [Worker.Fits, hp] at hfits
  obtain ⟨e, hr, he, rfl, locked, hlocked, hs⟩ := hfits
  have hact : w.activity? = some (.inside w.session (some ⟨w.session, r + 1⟩)) := by
    simp [Worker.activity?, hp]
  have hadv : (Activity.inside w.session (some ⟨w.session, r + 1⟩)).advance floor.world
      = (floor.world.update w.session Session.leave,
          .next (.finish (.ofKey w.session ⟨w.session, r + 1⟩))) := by
    simp [Activity.advance, Activity.ofExecution, World.isGuarded, hs, Session.plain]
  refine proceeds_of_advance h hact (p := .finishing r (.ofKey w.session ⟨w.session, r + 1⟩))
    ?_ ?_ ?_ (.inl rfl) rfl rfl ?_ ?_ (.inl rfl)
  · rw [hadv]
    rfl
  · simp [step, advance, hp, hadv]
  · rw [hadv]
    simp only [Worker.key?, Worker.ended, hp]
    exact .level (.refl _)
  · simp [Worker.begun, hp]
  · rw [hadv]
    show Worker.Fits load (World.session? _ _) _
    rw [World.session?_update_self hs (f := Session.leave) fun _ => rfl]
    exact ⟨hr, rfl, rfl, locked, rfl⟩

omit hl in
lemma proceeds_finishing {r : Nat} {c : Finish} (hp : w.phase = .finishing r c) :
    load.Proceeds floor w others := by
  have hfits := h.fits_self
  rw [Worker.Fits, hp] at hfits
  obtain ⟨hr, hid, hc⟩ := hfits
  have hact : w.activity? = some (.finish c) := by simp [Worker.activity?, hp]
  have hk : w.key? = some c.key := by simp [Worker.key?, hp]
  have hended : w.ended load.rounds = r := by simp [Worker.ended, hp]
  have hbegun : w.begun load.rounds = r + 1 := by simp [Worker.begun, hp]
  obtain ⟨s, hs⟩ := Option.ne_none_iff_exists'.1 hc.session?_ne_none
  rw [← hid] at hs
  rw [← hid, hs] at hc
  obtain ⟨s', hm⟩ := Finish.move_advance hs
  have hs' := hm.session?_eq hs
  rw [hid] at hs'
  rcases hm.goesOn_or_completes h.ordered.sound hc (h.held w (Multiset.mem_cons_self w others) _ hk)
    with ⟨c', hc', hplain, hkey, hsv⟩ | ⟨hdone, rfl, hled⟩
  · refine proceeds_of_advance h hact (p := .finishing r c') ?_ (step_finishing hp hc') ?_
      (.inl rfl) rfl rfl hbegun.symm ?_ (.inl rfl)
    · exact Activity.call?_ofCall .finish hc'
    · rw [hk, hended, ← hkey]
      exact .level (hsv ▸ .refl _)
    · exact hs'.symm ▸ ⟨hr, (hm.session_eq hc').trans hid, hplain⟩
  · refine proceeds_of_advance h hact (p := .ready (r + 1)) ?_ ?_ ?_ (.inr rfl) rfl rfl
      hbegun.symm ?_ (.inl rfl)
    · show (Activity.ofCall .finish (c.advance floor.world).2).call? = none
      rw [hdone]
      rfl
    · exact step_finished hp hdone
    · rw [hk, hended]
      exact .departure hled
    · rw [hid] at hs'
      exact hs'.symm ▸ ⟨hr, rfl⟩

omit hl in
lemma proceeds_closing {succeeded : Bool} {c : Abort} (hp : w.phase = .closing succeeded c) :
    load.Proceeds floor w others := by
  have hfits := h.fits_self
  rw [Worker.Fits, hp] at hfits
  obtain ⟨hsucc, hid, hc⟩ := hfits
  have hact : w.activity? = some (.abort c true) := by simp [Worker.activity?, hp]
  have hk : w.key? = none := by simp [Worker.key?, hp]
  have hended : w.ended load.rounds = load.rounds := by simp [Worker.ended, hp]
  have hbegun : w.begun load.rounds = load.rounds := by simp [Worker.begun, hp]
  have hbare := h.bare w (Multiset.mem_cons_self w others) (by simp [Worker.isClosing, hp])
  obtain ⟨s, hs⟩ := Option.ne_none_iff_exists'.1 hc.session?_ne_none
  rw [← hid] at hs
  rw [← hid, hs] at hc
  obtain ⟨s', hm⟩ := Abort.move_advance hs
  have hs' := hm.session?_eq hs
  rw [hid] at hs'
  obtain ⟨hsv, ⟨c', hc', hplain⟩ | hdone⟩ := hm.goesOn_or_ends hc (by rwa [hid])
  · refine proceeds_of_advance h hact (p := .closing succeeded c') ?_ (step_closing hp hc') ?_
      (.inl rfl) rfl rfl hbegun.symm ?_ (.inr ?_)
    · exact Activity.call?_ofCall (.abort · true) hc'
    · rw [hk, hended]
      exact .level (hsv ▸ .refl _)
    · exact hs'.symm ▸ ⟨hsucc, (hm.session_eq hc').trans hid, hplain⟩
    · intro k hks
      show (c.advance floor.world).1.service.status? k = none
      rw [hsv]
      exact hbare k hks
  · let w' : Worker := { w with phase := .over succeeded }
    have hnone : w'.activity? = none := rfl
    have ht : (traffic floor.world (w ::ₘ others)).advance (.abort c true)
        (others.filterMap Worker.activity?)
          = traffic ((c.advance floor.world).1.forget w.session) (w' ::ₘ others) := by
      rw [traffic, traffic, Multiset.filterMap_cons_none _ _ hnone]
      simp [Traffic.advance, Activity.advance, hdone, Activity.ofCall, Progress.call?,
        Activity.closes, Activity.session, hid]
    have hgone : ((c.advance floor.world).1.forget w.session).session? w.session = none := by
      rw [World.session?_forget, if_pos rfl]
    have hto : floor.world.service.Turnover ((c.advance floor.world).1.forget w.session).service
        w.key? (w.ended load.rounds) w'.key? (w'.ended load.rounds) := by
      rw [hk, hended]
      exact .level (hsv ▸ .refl _)
    have hseq := h.sequel_of_advance hact ht hto rfl rfl (fun hn => absurd hgone hn) hsucc fun hc =>
      absurd hc Bool.false_ne_true
    exact ⟨_, w', step_closed hp hdone, hseq, rfl, hbegun.symm⟩

end Sections

end Workload

end QueryAdmission
