import QueryAdmission.Proofs.Debt
import QueryAdmission.Proofs.Order

/-!
# Reasons to wait

As long as the calls of one session do not overlap, every query that waits has a reason at any time
(`Traffic.Excused`): all slots are in use, or another session owns one of its tables, or somebody
owes a pass, or the query was overlooked. That is when the table that it was refused had come free
before it gave its slot up, and nobody has been given a slot since (`Traffic.Overlooked`): the pass
at which it gave up gives it no slot, and the table came free too early for the pass that is run
after that to be of any use.

A section that runs no pass leaves all who wait their reasons, or somebody comes to owe a pass. One
that does run a pass leaves nobody waiting while a slot is free, but a query that has just given its
slot up (`Traffic.Heeded.advance`).
-/

namespace QueryAdmission

open Status (MayAdmit)

namespace Activity

variable {w w' : World MemoryHost} {a b : Activity} {key : QueryKey} {tables : List TableId}

lemma Owes.isCall (h : b.Owes w) : b.isCall := by
  cases b with
  | start | finish | abort => rfl
  | entering | inside | utility => exact h.elim

lemma backed_of_not_isCall (w : World MemoryHost) (h : b.isCall = false) : b.Backed w := by
  cases b with
  | start | finish | abort => cases h
  | entering | inside | utility => trivial

lemma Backed.congr (hb : b.Backed w) (hs : w'.service.schedule = w.service.schedule)
    (hl : w'.host.locks = w.host.locks) : b.Backed w' := by
  have hst (k : QueryKey) : w'.service.status? k = w.service.status? k := by
    unfold Service.status?
    rw [hs]
  cases b with
  | entering | inside | utility => trivial
  | start c executes =>
    simp only [Backed, Start.Backed, Admission.Backed, hst, hl] at hb ⊢
    exact hb
  | finish c =>
    simp only [Backed, Finish.Backed, hst] at hb ⊢
    exact hb
  | abort c closes =>
    simp only [Backed, Abort.Backed, hst] at hb ⊢
    exact hb

lemma Owes.congr (h : b.Owes w) (hs : w'.service.schedule = w.service.schedule) : b.Owes w' := by
  refine h.beside fun k _ => .inl ?_
  unfold Service.status?
  rw [hs]

lemma Awaits.mem_keys (h : b.Awaits key tables) : b.isCall ∧ key ∈ b.keys := by
  cases b with
  | start c executes =>
    obtain ⟨_, _, hp, -⟩ := h
    exact ⟨rfl, by simp [keys, Start.keys, hp]⟩
  | entering | inside | finish | abort | utility => exact h.elim

lemma Retreats.mem_keys (h : a.Retreats key) : a.isCall ∧ key ∈ a.keys := by
  cases a with
  | start c executes =>
    obtain ⟨_, _, hp, -⟩ := h
    exact ⟨rfl, by simp [keys, Start.keys, hp]⟩
  | entering | inside | finish | abort | utility => exact h.elim

lemma advance_retreat {c : Start} {executes : Bool} {adm : Admission} {u : TableId}
    (hp : c.phase = .admitting key adm) (hq : adm.phase = .locking (.refusedAt u))
    (w : World MemoryHost) : (start c executes).advance w
      = ({ w with service := w.service.giveUp adm.key }, .next (start (c.inPhase (.admitting key
          (adm.inPhase (.waiting (.ofKey adm.key adm.signal))))) executes)) := by
  simp [advance, Start.advance, hp, Admission.advance, hq, ofStart]

end Activity

namespace Traffic

/-- The query had given its slot up because of a table that had come free meanwhile, and nobody has
been given a slot since. -/
def Overlooked (t₀ : Traffic) (events : List Event) (t : Traffic) (key : QueryKey)
    (tables : List TableId) : Prop :=
  ∃ before after c executes a u t₁, events = before ++ .advanced (.start c executes) :: after ∧
    Run Activity.isCall t₀ before t₁ ∧ c.phase = .admitting key a ∧
    a.phase = .locking (.refusedAt u) ∧ u ∈ tables ∧ t₁.world.host.locks.owner u = none ∧
    t.world.service.tally.admitted = (t₁.world.service.giveUp key).tally.admitted

/-- Why a query may wait for a slot. -/
def Excused (t₀ : Traffic) (events : List Event) (t : Traffic) (key : QueryKey)
    (tables : List TableId) : Prop :=
  t.world.service.running = t.world.service.slots ∨
    (∃ u ∈ tables, ∃ o, t.world.host.locks.owner u = some o ∧ o ≠ key.session) ∨
    (∃ b ∈ t.underway, b.Owes t.world) ∨ Overlooked t₀ events t key tables

/-- Traffic in which calls have the records that they need, and all who wait have a reason. -/
structure Heeded (t₀ : Traffic) (events : List Event) (t : Traffic) : Prop where
  backed : ∀ a ∈ t.underway, a.Backed t.world
  excused : ∀ a ∈ t.underway, ∀ key tables, a.Awaits key tables →
    t.world.service.status? key = some .waiting → Excused t₀ events t key tables

variable {t₀ t t' : Traffic} {e : Event} {events : List Event} {a b : Activity}
  {a' : Option Activity} {rest : Multiset Activity} {w : World MemoryHost} {s s' : Session}
  {key : QueryKey} {tables : List TableId}

lemma Overlooked.append (h : Overlooked t₀ events t key tables)
    (ha : t'.world.service.tally.admitted = t.world.service.tally.admitted) (more : List Event) :
    Overlooked t₀ (events ++ more) t' key tables := by
  obtain ⟨before, after, c, executes, a, u, t₁, rfl, h⟩ := h
  rw [← ha] at h
  exact ⟨before, after ++ more, c, executes, a, u, t₁, by simp, h⟩

/-- Where no pass is run, a reason to wait stays, or somebody comes to owe a pass. -/
lemma Excused.append (h : Excused t₀ events t key tables) (t' : Traffic)
    (hr : t'.world.service.running = t.world.service.running)
    (hset : t'.world.service.settings = t.world.service.settings)
    (ht : t'.world.service.tally.admitted = t.world.service.tally.admitted)
    (hl : ∀ u o, t.world.host.locks.owner u = some o →
      t'.world.host.locks.owner u = some o ∨ ∃ b ∈ t'.underway, b.Owes t'.world)
    (ho : ∀ b ∈ t.underway, b.Owes t.world → ∃ b ∈ t'.underway, b.Owes t'.world)
    (more : List Event) : Excused t₀ (events ++ more) t' key tables := by
  rcases h with h | ⟨u, hu, o, how, hne⟩ | ⟨b, hb, hbo⟩ | h
  · left
    rwa [Service.slots, hr, hset]
  · rcases hl u o how with how | hp
    · exact .inr (.inl ⟨u, hu, o, how, hne⟩)
    · exact .inr (.inr (.inl hp))
  · exact .inr (.inr (.inl (ho b hb hbo)))
  · exact .inr (.inr (.inr (h.append ht more)))

/-- What changes neither the schedule nor locks leaves everybody his reason to wait. -/
lemma Heeded.congr (h : Heeded t₀ events t) (w : World MemoryHost)
    (hs : w.service.schedule = t.world.service.schedule)
    (hset : w.service.settings = t.world.service.settings)
    (ht : w.service.tally.admitted = t.world.service.tally.admitted)
    (hl : w.host.locks = t.world.host.locks) (more : List Event) :
    Heeded t₀ (events ++ more) ⟨w, t.underway⟩ := by
  refine ⟨fun a ha => (h.backed a ha).congr hs hl, fun a ha key tables hk hw => ?_⟩
  rw [Service.status?, hs] at hw
  have hr : w.service.running = t.world.service.running := congrArg Schedule.running hs
  refine (h.excused a ha key tables hk hw).append ⟨w, t.underway⟩ hr hset ht ?_ ?_ more
  · intro u o ho
    left
    show w.host.locks.owner u = some o
    rwa [hl]
  · exact fun b hb ho => ⟨b, hb, ho.congr hs⟩

/-- What begins has no needs, and does not wait. -/
lemma Heeded.begin (h : Heeded t₀ events t) (ha : a.isFresh) (more : List Event) :
    Heeded t₀ (events ++ more) ⟨t.world, a ::ₘ t.underway⟩ := by
  constructor
  · intro b hb
    rcases Multiset.mem_cons.1 hb with rfl | hb
    · exact Activity.backed_of_isFresh t.world ha
    · exact h.backed b hb
  · intro b hb key tables hk hw
    rcases Multiset.mem_cons.1 hb with rfl | hb
    · exact (Activity.not_awaits_of_isFresh ha key tables hk).elim
    · refine (h.excused b hb key tables hk hw).append ⟨t.world, a ::ₘ t.underway⟩ rfl rfl rfl
        (fun u o ho => .inl ho) (fun b hb ho => ?_) more
      exact ⟨b, Multiset.mem_cons_of_mem hb, ho⟩

/-! ### Sections -/

section Move

variable (hp : t.Proper) (hd : t.OneByOne Activity.isCall) (ha : t.underway = a ::ₘ rest)
  (hs : t.world.session? a.session = some s) (hm : a.Move t.world s w s' a')

include hp hd ha hs hm

/-- A section leaves alone the records and the locks of a call beside it. -/
lemma Proper.beside (hb : b ∈ rest) (hc : b.isCall) :
    (∀ u, w.host.locks.owner u = some b.session ↔ t.world.host.locks.owner u = some b.session) ∧
      ∀ k, k.session = b.session →
        MayAdmit (t.world.service.status? k) (w.service.status? k) := by
  by_cases hne : b.session = a.session
  · have hn : a.isCall = false := by
      by_contra hac
      have hbc := hd.not_both ha hb hne (by simpa using hac)
      rw [hc] at hbc
      cases hbc
    obtain ⟨hsv, hh⟩ := hm.of_not_isCall hn
    rw [hsv, hh]
    exact ⟨fun _ => Iff.rfl, fun k _ => MayAdmit.refl _⟩
  · exact (hp.others ha hs hm hne).2

lemma Proper.owes_beside (hb : b ∈ rest) (ho : b.Owes t.world) : b.Owes w :=
  ho.beside (hp.beside hd ha hs hm hb ho.isCall).2

/-- Calls have the records that they need, also after a section. -/
lemma Proper.backed (hrun : ∀ k ∈ s.keys, t.world.service.status? k = some .running)
    (h : ∀ b ∈ t.underway, b.Backed t.world) : ∀ b ∈ Activity.after a' rest, b.Backed w := by
  have hmem : a ∈ t.underway := by
    rw [ha]
    exact Multiset.mem_cons_self a rest
  have hr := hp.regular_cons ha hs
  intro b hb
  rcases Activity.mem_after.1 hb with hb | hb
  · refine hm.backed (h a hmem) (hr.fitsRoster a (Multiset.mem_cons_self _ _)) (fun k hk => ?_) b hb
    exact ⟨(hr.bounded_active hk).1.trans (World.id_of_session? hs), hrun k hk⟩
  · have hbt : b ∈ t.underway := by
      rw [ha]
      exact Multiset.mem_cons_of_mem hb
    cases hc : b.isCall with
    | false => exact Activity.backed_of_not_isCall w hc
    | true =>
      obtain ⟨hl, hst⟩ := hp.beside hd ha hs hm hb hc
      obtain ⟨sb, hsb⟩ := hp.session?_of_mem hbt
      have hfits := (hp.present _ sb hsb).fitsRoster b (Activity.mem_ofSession.2 ⟨hbt, rfl⟩)
      exact (h b hbt).beside hfits (fun k hk => hp.session_eq hbt hk) hst hl

/-- Where a section runs no pass, all who wait keep a reason. -/
lemma Excused.calm (h : Excused t₀ events t key tables) (hcalm : a.Calm t.world w a')
    (more : List Event) :
    Excused t₀ (events ++ more) ⟨w, Activity.after a' rest⟩ key tables := by
  refine h.append ⟨w, Activity.after a' rest⟩ hcalm.running hm.alike.1 hcalm.admitted
    (fun u o ho => ?_) (fun b hb ho => ?_) more
  · refine (hcalm.owner u o ho).imp_right ?_
    rintro ⟨b, hb, hbo⟩
    exact ⟨b, Activity.mem_after.2 (.inl hb), hbo⟩
  · rw [ha] at hb
    rcases Multiset.mem_cons.1 hb with rfl | hb
    · obtain ⟨b', hb', hbo⟩ := hcalm.owes ho
      exact ⟨b', Activity.mem_after.2 (.inl hb'), hbo⟩
    · exact ⟨b, Activity.mem_after.2 (.inr hb), hp.owes_beside hd ha hs hm hb ho⟩

end Move

/-- A query that gives its slot up waits because of the table that it was refused, unless that has
come free in the meantime. -/
lemma Excused.of_retreat (hrun : Run Activity.isCall t₀ events t) (hr : a.Retreats key)
    (hfits : a.FitsRoster t.world) (hback : a.Backed t.world) (hb : b ∈ (a.advance t.world).2.call?)
    (hk : b.Awaits key tables) (acts : Multiset Activity) :
    Excused t₀ (events ++ [.advanced a]) ⟨(a.advance t.world).1, acts⟩ key tables := by
  cases a with
  | entering | inside | finish | abort | utility => exact hr.elim
  | start c executes =>
    obtain ⟨adm, u, hp, hq⟩ := hr
    have hkey := (Start.Coherent.admission hfits.coherent key adm hp).1
    change c.Backed t.world at hback
    rw [Start.Backed, hp] at hback
    change adm.Backed t.world at hback
    rw [Admission.Backed, hq] at hback
    rw [Activity.advance_retreat hp hq] at hb ⊢
    cases hb
    obtain ⟨_, _, ⟨⟩, -, rfl⟩ := hk
    obtain ⟨hu, hne⟩ := hback.2.2 u rfl
    rw [hkey] at hne
    rcases ho : t.world.host.locks.owner u with _ | o
    · refine .inr (.inr (.inr ⟨events, [], c, executes, adm, u, t, rfl, hrun, hp, hq, hu, ho, ?_⟩))
      rw [hkey]
    · refine .inr (.inl ⟨u, hu, o, ho, ?_⟩)
      rintro rfl
      exact hne ho

/-- A section leaves everybody who waits a reason. -/
lemma Heeded.advance (h : Heeded t₀ events t) (hrun : Run Activity.isCall t₀ events t)
    (ho : t.Ordered) (hd : t.OneByOne Activity.isCall) (ha : t.underway = a ::ₘ rest) :
    Heeded t₀ (events ++ [.advanced a]) (t.advance a rest) := by
  have hp := ho.proper
  have hmem : a ∈ t.underway := by
    rw [ha]
    exact Multiset.mem_cons_self a rest
  have hrest {b : Activity} (hb : b ∈ rest) : b ∈ t.underway := by
    rw [ha]
    exact Multiset.mem_cons_of_mem hb
  obtain ⟨s, hs⟩ := hp.session?_of_mem hmem
  obtain ⟨s', hm⟩ := Activity.move_advance hs
  have hback := h.backed a hmem
  have hfits := (hp.regular_cons ha hs).fitsRoster a (Multiset.mem_cons_self _ _)
  have hmain : Heeded t₀ (events ++ [.advanced a])
      ⟨(a.advance t.world).1, Activity.after (a.advance t.world).2.call? rest⟩ := by
    refine ⟨hp.backed hd ha hs hm (ho.present _ s hs).running h.backed, ?_⟩
    intro b hb key tables hk hw
    rcases hm.calm_or_full hback hfits hp.sound with hcalm | hfull
    · have hx : Excused t₀ events t key tables := by
        rcases Activity.mem_after.1 hb with hb | hb
        · exact h.excused a hmem key tables (hcalm.awaits b hb key tables hk) (hcalm.waits key hw)
        · exact h.excused b (hrest hb) key tables hk (hcalm.waits key hw)
      exact hx.calm hp hd ha hs hm hcalm _
    · by_cases hr : a.Retreats key
      · rcases Activity.mem_after.1 hb with hb | hb
        · exact .of_retreat hrun hr hfits hback hb hk _
        · -- Another call of the session would go on beside the one that gives its slot up.
          exfalso
          have hsess : b.session = a.session :=
            (hp.session_eq (hrest hb) hk.mem_keys.2).symm.trans (hp.session_eq hmem hr.mem_keys.2)
          have hc := hd.not_both ha hb hsess hr.mem_keys.1
          rw [hk.mem_keys.1] at hc
          cases hc
      · exact .inl (hfull key hr hw)
  rcases t.advance_eq a rest with he | ⟨hn, -, he⟩
  · rwa [he]
  · rw [hn] at hmain
    rw [he, ← List.append_nil (events ++ _)]
    exact hmain.congr ((a.advance t.world).1.forget a.session) rfl rfl rfl rfl []

/-- In a run in which the calls of one session do not overlap, all who wait have a reason at any
time. -/
lemma Run.heeded (ho : t₀.Ordered) (h₀ : t₀.underway = 0)
    (hrun : Run Activity.isCall t₀ events t) : Heeded t₀ events t := by
  induction hrun with
  | nil =>
    refine ⟨fun a ha => ?_, fun a ha => ?_⟩
    all_goals
      rw [h₀] at ha
      cases ha
  | @snoc events t t' e hrun hs hd ih =>
    cases hs with
    | opened kind => exact ih.congr (t.world.openSession kind).2 rfl rfl rfl rfl _
    | begun ha => exact ih.begin ha _
    | advanced ha =>
      have hord := hrun.ordered ho h₀ fun _ => Activity.isCall_of_isStart
      exact ih.advance hrun hord (hrun.oneByOne h₀) ha
    | raised signal =>
      refine ih.congr (t.world.raise signal) ?_ ?_ ?_ ?_ _
      all_goals cases signal <;> rfl
    | shutDown =>
      exact ih.congr { t.world with service := t.world.service.shutDown } rfl rfl rfl rfl _
    | indexed index =>
      exact ih.congr { t.world with host := { t.world.host with index } } rfl rfl rfl rfl _

end Traffic

end QueryAdmission
