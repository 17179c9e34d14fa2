import QueryAdmission.Proofs.Activity
import QueryAdmission.Proofs.Full

/-!
# Who owes a pass

A call that frees a table, or that was refused one, is about to run a pass: it will give its slot
up, or end a query, or sweep the records of its session (`Activity.Owes`). For this it needs a
record, which nobody takes away from it while no other call goes on in its session
(`Activity.Backed`).

So a section that runs no pass leaves alone what others wait for, but for a table that it frees, and
then it owes a pass (`Activity.Move.calm_or_full`).
-/

namespace QueryAdmission

open Status (MayAdmit)

/-! ### Lock passes -/

namespace LockPass

variable {s o : SessionId} {l l' : LockTable} {p p' : LockPass} {u : TableId}

/-- The tables that a pass is yet to take. -/
def ahead : LockPass → List TableId
  | asking t left _ | attempting t left _ => t :: left
  | undoing _ _ _ | took _ | refusedAt _ => []

/-- The table that a pass was refused. -/
def refused? : LockPass → Option TableId
  | undoing _ _ refused | refusedAt refused => some refused
  | asking _ _ _ | attempting _ _ _ | took _ => none

@[simp] lemma ahead_proceed (left taken : List TableId) : (proceed left taken).ahead = left := by
  cases left <;> rfl

@[simp] lemma refused?_proceed (left taken : List TableId) :
    (proceed left taken).refused? = none := by
  cases left <;> rfl

@[simp] lemma ahead_undo (refused : TableId) (taken : List TableId) :
    (undo refused taken).ahead = [] := by
  cases taken <;> rfl

@[simp] lemma refused?_undo (refused : TableId) (taken : List TableId) :
    (undo refused taken).refused? = some refused := by
  cases taken <;> rfl

lemma Contact.ahead_subset (h : Contact s l p l' p') (hu : u ∈ p'.ahead) : u ∈ p.ahead := by
  cases h with
  | skipped | locked =>
    rw [ahead_proceed] at hu
    exact List.mem_cons_of_mem _ hu
  | asked => exact hu
  | refused | returned => simp at hu

/-- A pass that was refused a table goes on giving back what it took. -/
lemma Contact.refused?_eq (h : Contact s l p l' p') (hu : p.refused? = some u) :
    p'.refused? = some u := by
  cases h with
  | skipped | asked | locked | refused => cases hu
  | returned =>
    cases hu
    exact refused?_undo _ _

/-- The table that a pass was refused is one that it wanted, and not its session's own. -/
lemma Contact.of_refused? (h : Contact s l p l' p') (hu : p'.refused? = some u) :
    p.refused? = some u ∧ (l'.owner u = some s → l.owner u = some s) ∨
      u ∈ p.ahead ∧ l'.owner u ≠ some s := by
  cases h with
  | skipped | locked => simp at hu
  | asked => cases hu
  | refused ho =>
    rw [refused?_undo] at hu
    cases hu
    exact .inr ⟨List.mem_cons_self, ho⟩
  | returned =>
    rw [refused?_undo] at hu
    exact .inl ⟨hu, LockTable.owner_of_unlock⟩

/-- A pass frees a table only if it was refused one. -/
lemma Contact.owner_kept (h : Contact s l p l' p') (ho : l.owner u = some o) :
    l'.owner u = some o ∨ ∃ v, p'.refused? = some v := by
  cases h with
  | skipped | asked | refused => exact .inl ho
  | locked =>
    left
    rw [LockTable.owner_attempt, if_neg]
    · exact ho
    · rintro ⟨rfl, hn⟩
      rw [hn] at ho
      cases ho
  | returned => exact .inr ⟨_, refused?_undo _ _⟩

end LockPass

/-! ### Records that calls count on -/

/-- An admission that has a record when it needs one: in its lock pass. -/
def Admission.Backed (w : World MemoryHost) (a : Admission) : Prop :=
  match a.phase with
  | .waiting _ => True
  | .locking pass =>
    w.service.status? a.key ≠ none ∧ (∀ u ∈ pass.ahead, u ∈ a.tables) ∧
      ∀ u, pass.refused? = some u → u ∈ a.tables ∧ w.host.locks.owner u ≠ some a.key.session
  | .undoing _ => False

/-- A start that has a record when it needs one: that of the stale query until it is finished, and
its own one from the lock pass on. -/
def Start.Backed (w : World MemoryHost) (c : Start) : Prop :=
  match c.phase with
  | .finishing _ stale _ => w.service.status? stale ≠ none
  | .admitting _ a => a.Backed w
  | .checking key _ => w.service.status? key = some .running
  | .undoing _ _ => False
  | .entering | .surveying _ _ | .installing _ _ => True

/-- An end that has a record when it needs one: as long as it gives back tables. -/
def Finish.Backed (w : World MemoryHost) (c : Finish) : Prop :=
  match c.phase with
  | .taking => True
  | .releasing _ => w.service.status? c.key ≠ none

/-- An abort whose session has a record, if there are tables to give back. -/
def Abort.Backed (w : World MemoryHost) (c : Abort) : Prop :=
  match c.phase with
  | .releasing (_ :: _) => ∃ k, k.session = c.session ∧ w.service.status? k ≠ none
  | .taking | .releasing [] => True

/-! ### Calls that are about to run a pass -/

/-- An admission that was refused a table: it is going to give its slot up. -/
def Admission.Owes (a : Admission) : Prop :=
  match a.phase with
  | .locking pass => ∃ u, pass.refused? = some u
  | .waiting _ | .undoing _ => False

/-- A start that is going to end a stale query, or to give its slot up. -/
def Start.Owes (c : Start) : Prop :=
  match c.phase with
  | .finishing _ _ _ => True
  | .admitting _ a => a.Owes
  | .entering | .surveying _ _ | .checking _ _ | .undoing _ _ | .installing _ _ => False

/-- An end that is going to take the query's record off the roster. -/
def Finish.Owes (c : Finish) : Prop :=
  match c.phase with
  | .releasing _ => True
  | .taking => False

/-- An abort that is going to sweep records of its session. -/
def Abort.Owes (w : World MemoryHost) (c : Abort) : Prop :=
  match c.phase with
  | .releasing _ => ∃ k, k.session = c.session ∧ w.service.status? k ≠ none
  | .taking => False

namespace Activity

/-- An activity that has the records that it needs. -/
def Backed (w : World MemoryHost) : Activity → Prop
  | start c _ => c.Backed w
  | finish c => c.Backed w
  | abort c _ => c.Backed w
  | entering _ _ | inside _ _ | utility _ _ => True

/-- Whether it is going to run a pass, whatever others do. -/
def Owes (w : World MemoryHost) : Activity → Prop
  | start c _ => c.Owes
  | finish c => c.Owes
  | abort c _ => c.Owes w
  | entering _ _ | inside _ _ | utility _ _ => False

/-- Whether the query with that key waits for a slot, and wants these tables. -/
def Awaits (key : QueryKey) (tables : List TableId) : Activity → Prop
  | start c _ =>
    ∃ a wait, c.phase = .admitting key a ∧ a.phase = .waiting wait ∧ a.tables = tables
  | entering _ _ | inside _ _ | finish _ | abort _ _ | utility _ _ => False

/-- Whether the query with that key is about to give its slot up. -/
def Retreats (key : QueryKey) : Activity → Prop
  | start c _ => ∃ a u, c.phase = .admitting key a ∧ a.phase = .locking (.refusedAt u)
  | entering _ _ | inside _ _ | finish _ | abort _ _ | utility _ _ => False

/-- What a section leaves alone that runs no pass. -/
structure Calm (w : World MemoryHost) (a : Activity) (w' : World MemoryHost)
    (a' : Option Activity) : Prop where
  running : w'.service.running = w.service.running
  admitted : w'.service.tally.admitted = w.service.tally.admitted
  waits : ∀ k, w'.service.status? k = some .waiting → w.service.status? k = some .waiting
  owner : ∀ u o, w.host.locks.owner u = some o →
    w'.host.locks.owner u = some o ∨ ∃ b ∈ a', b.Owes w'
  owes : a.Owes w → ∃ b ∈ a', b.Owes w'
  awaits : ∀ b ∈ a', ∀ k tables, b.Awaits k tables → a.Awaits k tables

variable {w w' : World MemoryHost} {s s' : Session} {a b : Activity} {a' : Option Activity}
  {k : QueryKey}

/-- A section that changes neither the schedule nor locks. -/
lemma Calm.of_same (hs : w'.service.schedule = w.service.schedule)
    (ht : w'.service.tally.admitted = w.service.tally.admitted)
    (hl : w'.host.locks = w.host.locks) (ho : a.Owes w → ∃ b ∈ a', b.Owes w')
    (ha : ∀ b ∈ a', ∀ k tables, b.Awaits k tables → a.Awaits k tables) : Calm w a w' a' where
  running := congrArg Schedule.running hs
  admitted := ht
  waits k hk := by rwa [Service.status?, hs] at hk
  owner u o h := .inl (by rwa [hl])
  owes := ho
  awaits := ha

/-- Such a section of an activity that owes no pass. -/
lemma Calm.of_not_owes (hs : w'.service.schedule = w.service.schedule)
    (ht : w'.service.tally.admitted = w.service.tally.admitted)
    (hl : w'.host.locks = w.host.locks) (ho : ¬a.Owes w)
    (ha : ∀ b ∈ a', ∀ k tables, b.Awaits k tables → a.Awaits k tables) : Calm w a w' a' :=
  .of_same hs ht hl (fun h => absurd h ho) ha

end Activity

/-! ### The records stay -/

lemma Admission.Move.backed {w w' : World MemoryHost} {a a' : Admission}
    {p : Progress Admission (Except Refusal (List TableId))} (h : Move w a w' p)
    (hb : a.Backed w) (hc : ∀ wait, a.phase = .waiting wait → wait.key = a.key)
    (hp : p.call? = some a') : a'.Backed w' := by
  rw [Backed] at hb
  cases h with
  | gone | departed | began | failed => cases hp
  | @granted c service hq _ hl =>
    cases hp
    obtain ⟨status, hst, -⟩ := w.service.look_found c.key hl nofun
    rw [hc c hq] at hst
    refine ⟨by simp [inPhase, hst], fun u hu => ?_, fun u hu => ?_⟩
    · rwa [LockPass.ofTables, LockPass.ahead_proceed] at hu
    · rw [LockPass.ofTables, LockPass.refused?_proceed] at hu
      cases hu
  | queued | called | slept | retreated =>
    cases hp
    trivial
  | contact hq hm =>
    cases hp
    rw [hq] at hb
    obtain ⟨hst, hahead, href⟩ := hb
    refine ⟨hst, fun u hu => hahead u (hm.ahead_subset hu), fun u hu => ?_⟩
    rcases hm.of_refused? hu with ⟨hu, ho⟩ | ⟨hu, ho⟩
    · exact ⟨(href u hu).1, fun hs => (href u hu).2 (ho hs)⟩
    · exact ⟨hahead u hu, ho⟩
  | lost hq hn =>
    rw [hq] at hb
    exact absurd hn hb.1
  | returned hq =>
    rw [hq] at hb
    exact hb.elim

lemma Start.Move.backed {w w' : World MemoryHost} {s s' : Session} {c c' : Start}
    {p : Progress Start (Except Refusal (Option QueryKey))} (h : Move w s c w' s' p)
    (hb : c.Backed w) (hc : c.Coherent) (hf : c.phase.Fits w.service.status?)
    (hs : ∀ k ∈ s.keys, w.service.status? k = some .running) (hp : p.call? = some c') :
    c'.Backed w' := by
  cases h with
  | ignored | refused | installed | failed => cases hp
  | barred =>
    cases hp
    exact hb
  | entered =>
    cases hp
    rcases hq : s.active with _ | q
    · trivial
    · have hk := hs q.key (Session.mem_keys.2 ⟨q.locked, hq⟩)
      show w.service.status? q.key ≠ none
      rw [hk]
      exact Option.some_ne_none _
  | returned hq =>
    cases hp
    rw [Backed, hq] at hb
    exact hb
  | finished | asked | registered | approved =>
    cases hp
    trivial
  | denied hq _ hr =>
    rw [Backed, hq] at hb
    exact absurd hb hr
  | unlocked hq =>
    rw [Backed, hq] at hb
    exact hb.elim
  | @admission key a p w' hq hm =>
    obtain ⟨ha, hwait⟩ := hc.admission key a hq
    rw [Backed, hq] at hb
    rw [hq] at hf
    rcases p with b | b | (r | locked)
    · cases hp
      exact hm.backed hb (by rwa [ha]) rfl
    · cases hp
      exact hm.backed hb (by rwa [ha]) rfl
    · cases hp
    · cases hp
      have he := hm.ended (by rwa [ha]) (by rwa [ha])
      rw [ha] at he
      exact he.2 locked rfl

namespace Activity

variable {w w' : World MemoryHost} {s s' : Session} {a b : Activity} {a' : Option Activity}
  {k : QueryKey}

lemma Light.backed (hl : a.Light) (w : World MemoryHost) : a.Backed w := by
  cases a with
  | start => cases hl.isStart
  | entering | inside | utility => trivial
  | finish c =>
    have hk : c.keys = 0 := hl.keys
    rw [Finish.keys] at hk
    show Finish.Backed w c
    rw [Finish.Backed]
    cases hp : c.phase with
    | taking => trivial
    | releasing left => simp [hp] at hk
  | abort c closes =>
    have hg : c.guards = 0 := hl.guards
    rw [Abort.guards] at hg
    show Abort.Backed w c
    rw [Abort.Backed]
    cases hp : c.phase with
    | taking => trivial
    | releasing left => simp [hp] at hg

/-- A call that goes on still has the records that it needs. -/
lemma Move.backed (h : Move w s a w' s' a') (hb : a.Backed w) (ho : a.FitsRoster w)
    (hs : ∀ k ∈ s.keys, k.session = a.session ∧ w.service.status? k = some .running) :
    ∀ b ∈ a', b.Backed w' := by
  intro b hba
  cases h with
  | start h =>
    obtain ⟨c', hc, rfl⟩ | ⟨key, rfl⟩ := mem_ofStart hba
    · exact h.backed hb ho.coherent ho.fits (fun k hk => (hs k hk).2) hc
    · trivial
  | finish h =>
    obtain ⟨c', hc, rfl⟩ := mem_ofCall hba
    cases h with
    | idle | completed => cases hc
    | barred =>
      cases hc
      exact hb
    | @took locked _ _ hq =>
      cases hc
      have hk := (hs _ (Session.mem_keys.2 ⟨locked, hq⟩)).2
      show w.service.status? _ ≠ none
      rw [hk]
      exact Option.some_ne_none _
    | returned hp =>
      cases hc
      change Finish.Backed _ _ at hb
      rw [Finish.Backed, hp] at hb
      exact hb
  | abort h =>
    obtain ⟨c', hc, rfl⟩ := mem_ofCall hba
    cases h with
    | swept => cases hc
    | barred =>
      cases hc
      exact hb
    | took =>
      cases hc
      show Abort.Backed _ _
      rw [Abort.Backed]
      rcases hq : s.active with _ | q
      · rw [Session.lockedTables_of_none hq]
        trivial
      · obtain ⟨hks, hk⟩ := hs q.key (Session.mem_keys.2 ⟨q.locked, hq⟩)
        dsimp only
        split
        · exact ⟨q.key, hks, by simp [World.update, hk]⟩
        · trivial
        · trivial
    | @returned t ts hp =>
      cases hc
      change Abort.Backed _ _ at hb
      rw [Abort.Backed, hp] at hb
      cases ts with
      | nil => trivial
      | cons t' ts => exact hb
  | bracket ha ha' => exact (ha' b hba).1.backed _

/-! ### Calm sections, and sections that run a pass -/

lemma not_owes_of_waiting {c : Start} {executes : Bool} {key : QueryKey} {a : Admission}
    {wait : Wait} (hp : c.phase = .admitting key a) (hq : a.phase = .waiting wait) :
    ¬(start c executes).Owes w := by
  simp [Owes, Start.Owes, hp, Admission.Owes, hq]

/-- A section of an admission leaves alone what others wait for, or it runs a pass, or it frees a
table because another one was refused. -/
lemma calm_or_full_of_admission {c : Start} {executes : Bool} {key : QueryKey} {adm : Admission}
    {p : Progress Admission (Except Refusal (List TableId))} (hm : adm.Move w w' p)
    (hp : c.phase = .admitting key adm) (hc : c.Coherent) (hb : adm.Backed w)
    (hw : w.service.Sound) :
    Calm w (start c executes) w' (ofStart c.session executes (c.relay key p)).call? ∨
      ∀ k, ¬(start c executes).Retreats k → w'.service.FullFor k := by
  have hkey := (hc.admission key adm hp).1
  -- An admission that waits stays one for the same query and the same tables.
  have stays {wait : Wait} (hq : adm.phase = .waiting wait) (wait' : Wait) :
      ∀ b ∈ some (start (c.inPhase (.admitting key (adm.inPhase (.waiting wait')))) executes),
        ∀ k tables, b.Awaits k tables → (start c executes).Awaits k tables := by
    rintro b ⟨⟩ k tables ⟨_, _, ⟨⟩, -, ht⟩
    exact ⟨adm, wait, hp, hq, ht⟩
  rw [Admission.Backed] at hb
  cases hm with
  | gone hq =>
    exact .inl (.of_not_owes rfl rfl rfl (not_owes_of_waiting hp hq) (by rintro _ ⟨⟩))
  | @granted wait service hq _ hl =>
    rcases hw.look_or wait.key with hs | hf
    · rw [hl] at hs
      obtain rfl : service = w.service := hs
      refine .inl (.of_not_owes rfl rfl rfl (not_owes_of_waiting hp hq) ?_)
      rintro b ⟨⟩ k tables ⟨_, _, ⟨⟩, h, -⟩
      cases h
    · rw [hl] at hf
      exact .inr fun k _ => hf k
  | @queued wait service hq _ hl =>
    rcases hw.look_or wait.key with hs | hf
    · rw [hl] at hs
      obtain rfl : service = w.service := hs
      exact .inl (.of_not_owes rfl rfl rfl (not_owes_of_waiting hp hq) (stays hq _))
    · rw [hl] at hf
      exact .inr fun k _ => hf k
  | called hq | slept hq =>
    exact .inl (.of_not_owes rfl rfl rfl (not_owes_of_waiting hp hq) (stays hq _))
  | @departed wait why hq =>
    by_cases hn : w.service.status? wait.key = none
    · obtain ⟨hs, ht⟩ := Service.depart_of_none hn why
      exact .inl (.of_not_owes hs ht rfl (not_owes_of_waiting hp hq) (by rintro _ ⟨⟩))
    · exact .inr fun k _ => hw.fullFor_depart hn why k
  | @contact pass pass' locks hq hm =>
    have owes {u : TableId} (hu : pass'.refused? = some u) (w : World MemoryHost) :
        (start (c.inPhase (.admitting key (adm.inPhase (.locking pass')))) executes).Owes w :=
      show ∃ u, pass'.refused? = some u from ⟨u, hu⟩
    refine .inl ⟨rfl, rfl, fun k hk => hk, fun u o ho => ?_, ?_, ?_⟩
    · refine (hm.owner_kept ho).imp_right ?_
      rintro ⟨v, hv⟩
      exact ⟨_, rfl, owes hv _⟩
    · intro h
      simp only [Owes, Start.Owes, hp, Admission.Owes, hq] at h
      obtain ⟨u, hu⟩ := h
      exact ⟨_, rfl, owes (hm.refused?_eq hu) _⟩
    · rintro b ⟨⟩ k tables ⟨_, _, ⟨⟩, h, -⟩
      cases h
  | began hq =>
    obtain ⟨hr, ht⟩ := w.service.running_markRunning adm.key
    refine .inl ⟨hr, ht, fun k hk => ?_, fun u o ho => .inl ho, ?_, ?_⟩
    · have hk : (w.service.markRunning adm.key).2.status? k = some .waiting := hk
      rw [Service.status?_markRunning] at hk
      split_ifs at hk
      · obtain ⟨_, _, h⟩ := Option.map_eq_some_iff.1 hk
        cases h
      · exact hk
    · intro h
      simp [Owes, Start.Owes, hp, Admission.Owes, hq, LockPass.refused?] at h
    · rintro b ⟨⟩ k tables ⟨_, _, ⟨⟩, -⟩
  | lost hq hn =>
    rw [hq] at hb
    exact absurd hn hb.1
  | @retreated t hq =>
    rw [hq] at hb
    refine .inr fun k hk => hw.fullFor_giveUp hb.1 ?_
    rintro rfl
    exact hk ⟨adm, t, by rw [hp, hkey], hq⟩
  | returned hq | failed hq =>
    rw [hq] at hb
    exact hb.elim

lemma calm_or_full_of_start {c : Start} {executes : Bool}
    {p : Progress Start (Except Refusal (Option QueryKey))} (h : c.Move w s w' s' p)
    (hc : c.Coherent) (hb : c.Backed w) (hw : w.service.Sound) :
    Calm w (start c executes) w' (ofStart c.session executes p).call? ∨
      ∀ k, ¬(start c executes).Retreats k → w'.service.FullFor k := by
  have of_done (p : Progress Start (Except Refusal (Option QueryKey))) (hp : p.call? = none) :
      ∀ b ∈ (ofStart c.session executes p).call?, ∀ k tables, b.Awaits k tables →
        (start c executes).Awaits k tables := by
    rintro b hb k tables ha
    obtain ⟨c', hc', rfl⟩ | ⟨key, rfl⟩ := mem_ofStart hb
    · rw [hp] at hc'
      cases hc'
    · exact ha.elim
  rw [Start.Backed] at hb
  cases h with
  | barred hp =>
    refine .inl (.of_same rfl rfl rfl (fun h => ⟨_, rfl, h⟩) ?_)
    rintro b ⟨⟩ k tables ha
    exact ha
  | ignored hp =>
    exact .inl (.of_not_owes rfl rfl rfl (by simp [Owes, Start.Owes, hp]) (of_done _ rfl))
  | entered hp =>
    refine .inl (.of_not_owes rfl rfl rfl (by simp [Owes, Start.Owes, hp]) ?_)
    rintro b ⟨⟩ k tables ⟨_, _, h, -⟩
    rcases hq : s.active with _ | q <;> rw [hq] at h <;> cases h
  | @returned key stale t ts hp =>
    have owes (w : World MemoryHost) :
        (start (c.inPhase (.finishing key stale ts)) executes).Owes w := trivial
    refine .inl ⟨rfl, rfl, fun k hk => hk, fun u o ho => .inr ⟨_, rfl, owes _⟩,
      fun _ => ⟨_, rfl, owes _⟩, ?_⟩
    rintro b ⟨⟩ k tables ⟨_, _, ⟨⟩, -⟩
  | finished hp =>
    rw [hp] at hb
    exact .inr fun k _ => hw.fullFor_complete hb k
  | asked hp =>
    refine .inl (.of_not_owes rfl rfl rfl (by simp [Owes, Start.Owes, hp]) ?_)
    rintro b ⟨⟩ k tables ⟨_, _, ⟨⟩, -⟩
  | registered hp hr => exact .inr fun k _ => hw.fullFor_register hr k
  | refused hp hr =>
    obtain ⟨hs, ht⟩ := Service.schedule_register_error hr
    exact .inl (.of_not_owes hs ht rfl (by simp [Owes, Start.Owes, hp]) (of_done _ rfl))
  | admission hp hm =>
    rw [hp] at hb
    exact calm_or_full_of_admission hm hp hc hb hw
  | approved hp | denied hp =>
    refine .inl (.of_not_owes rfl rfl rfl (by simp [Owes, Start.Owes, hp]) ?_)
    rintro b ⟨⟩ k tables ⟨_, _, ⟨⟩, -⟩
  | installed hp =>
    exact .inl (.of_not_owes rfl rfl rfl (by simp [Owes, Start.Owes, hp]) (of_done _ rfl))
  | unlocked hp | failed hp =>
    rw [hp] at hb
    exact hb.elim

lemma calm_or_full_of_finish {c : Finish} {p : Progress Finish Unit} (h : c.Move w s w' s' p)
    (hb : c.Backed w) (hw : w.service.Sound) :
    Calm w (finish c) w' (ofCall finish p).call? ∨ ∀ k, w'.service.FullFor k := by
  have none_awaits : ∀ b ∈ (ofCall finish p).call?, ∀ k tables, b.Awaits k tables →
      (finish c).Awaits k tables := by
    intro b hb k tables ha
    obtain ⟨c', -, rfl⟩ := mem_ofCall hb
    exact ha
  rw [Finish.Backed] at hb
  cases h with
  | barred => exact .inl (.of_same rfl rfl rfl (fun h => ⟨_, rfl, h⟩) none_awaits)
  | idle hp | took hp =>
    exact .inl (.of_not_owes rfl rfl rfl (by simp [Owes, Finish.Owes, hp]) none_awaits)
  | @returned t ts hp =>
    exact .inl ⟨rfl, rfl, fun k hk => hk, fun u o ho => .inr ⟨_, rfl, trivial⟩,
      fun _ => ⟨_, rfl, trivial⟩, none_awaits⟩
  | completed hp =>
    rw [hp] at hb
    exact .inr fun k => hw.fullFor_complete hb k

lemma calm_or_full_of_abort {c : Abort} {closes : Bool} {p : Progress Abort Unit}
    (h : c.Move w s w' s' p) (hb : c.Backed w) (hw : w.service.Sound) :
    Calm w (abort c closes) w' (ofCall (abort · closes) p).call? ∨
      ∀ k, w'.service.FullFor k := by
  have none_awaits : ∀ b ∈ (ofCall (abort · closes) p).call?, ∀ k tables, b.Awaits k tables →
      (abort c closes).Awaits k tables := by
    intro b hb k tables ha
    obtain ⟨c', -, rfl⟩ := mem_ofCall hb
    exact ha
  rw [Abort.Backed] at hb
  cases h with
  | barred => exact .inl (.of_same rfl rfl rfl (fun h => ⟨_, rfl, h⟩) none_awaits)
  | took hp =>
    exact .inl (.of_not_owes rfl rfl rfl (by simp [Owes, Abort.Owes, hp]) none_awaits)
  | @returned t ts hp =>
    rw [hp] at hb
    exact .inl ⟨rfl, rfl, fun k hk => hk, fun u o ho => .inr ⟨_, rfl, hb⟩, fun _ => ⟨_, rfl, hb⟩,
      none_awaits⟩
  | swept hp =>
    by_cases hk : ∃ k, k.session = c.session ∧ w.service.status? k ≠ none
    · exact .inr fun k => hw.fullFor_sweep hk k
    · have hs : (w.service.sweep c.session).2 = w.service :=
        w.service.sweep_of_none fun k hks => by
          by_contra hne
          exact hk ⟨k, hks, hne⟩
      exact .inl (.of_not_owes (congrArg Service.schedule hs) (congrArg (·.tally.admitted) hs) rfl
        (by simpa [Owes, Abort.Owes, hp] using hk) none_awaits)

lemma Light.not_owes (hl : a.Light) : ¬a.Owes w := by
  cases a with
  | start => cases hl.isStart
  | entering | inside | utility => exact id
  | finish c =>
    have hk : c.keys = 0 := hl.keys
    cases hp : c.phase with
    | taking => simp [Owes, Finish.Owes, hp]
    | releasing left => simp [Finish.keys, hp] at hk
  | abort c closes =>
    have hg : c.guards = 0 := hl.guards
    cases hp : c.phase with
    | taking => simp [Owes, Abort.Owes, hp]
    | releasing left => simp [Abort.guards, hp] at hg

/-- A section leaves alone what others wait for, but for tables of which it frees one before it runs
a pass. Or it does run a pass, and then nobody waits while a slot is free but a query that has just
given its slot up. -/
lemma Move.calm_or_full (h : Move w s a w' s' a') (hb : a.Backed w) (ho : a.FitsRoster w)
    (hw : w.service.Sound) :
    Calm w a w' a' ∨ ∀ k, ¬a.Retreats k → w'.service.FullFor k := by
  cases h with
  | start h => exact calm_or_full_of_start h ho.coherent hb hw
  | finish h => exact (calm_or_full_of_finish h hb hw).imp_right fun h k _ => h k
  | abort h => exact (calm_or_full_of_abort h hb hw).imp_right fun h k _ => h k
  | bracket ha ha' hf =>
    refine .inl (.of_same rfl rfl rfl (fun h => (ha.not_owes h).elim) fun b hb k tables hk => ?_)
    have hl := (ha' b hb).1.isStart
    cases b with
    | start => cases hl
    | entering | inside | finish | abort | utility => exact hk.elim

/-! ### What others do -/

/-- Whether it is a call: a start, an end or an abort. -/
def isCall : Activity → Bool
  | start _ _ | finish _ | abort _ _ => true
  | entering _ _ | inside _ _ | utility _ _ => false

lemma isCall_of_isStart (h : a.isStart) : a.isCall := by
  cases a with
  | start => rfl
  | entering | inside | finish | abort | utility => cases h

/-- What is no call changes neither the scheduler nor the host. -/
lemma Move.of_not_isCall (h : Move w s a w' s' a') (ha : a.isCall = false) :
    w'.service = w.service ∧ w'.host = w.host := by
  cases h with
  | start | finish | abort => cases ha
  | bracket => exact ⟨rfl, rfl⟩

/-- What does not change the records nor the locks of the session leaves a call the records that it
needs. -/
lemma Backed.beside (hb : b.Backed w) (hc : b.FitsRoster w)
    (hk : ∀ k ∈ b.keys, k.session = b.session)
    (hst : ∀ k, k.session = b.session → MayAdmit (w.service.status? k) (w'.service.status? k))
    (hl : ∀ u, w'.host.locks.owner u = some b.session ↔ w.host.locks.owner u = some b.session) :
    b.Backed w' := by
  have stays {k : QueryKey} (hks : k.session = b.session) (hn : w.service.status? k ≠ none) :
      w'.service.status? k ≠ none := fun hn' => hn ((hst k hks).eq_none.1 hn')
  cases b with
  | entering | inside | utility => trivial
  | start c executes =>
    change c.Backed w at hb
    show c.Backed w'
    have hk : ∀ k ∈ c.keys, k.session = c.session := hk
    rw [Start.keys] at hk
    rw [Start.Backed] at hb ⊢
    cases hp : c.phase with
    | entering | surveying | installing => trivial
    | finishing key stale left =>
      rw [hp] at hb hk
      exact stays (hk stale (by simp)) hb
    | checking key locked =>
      rw [hp] at hb hk
      have hm := hst key (hk key (by simp))
      rw [show w.service.status? key = some .running from hb] at hm
      exact Status.mayAdmit_running.1 hm
    | undoing =>
      rw [hp] at hb
      exact hb
    | admitting key a =>
      rw [hp] at hb hk
      obtain ⟨ha, -⟩ := Start.Coherent.admission hc.coherent key a hp
      have hs : a.key.session = c.session := by
        rw [ha]
        exact hk key (by simp)
      change a.Backed w at hb
      show a.Backed w'
      rw [Admission.Backed] at hb ⊢
      cases hq : a.phase with
      | waiting => trivial
      | undoing =>
        rw [hq] at hb
        exact hb
      | locking pass =>
        rw [hq] at hb
        obtain ⟨hn, hahead, href⟩ := hb
        refine ⟨stays hs hn, hahead, fun u hu => ⟨(href u hu).1, fun ho => (href u hu).2 ?_⟩⟩
        rw [hs] at ho ⊢
        exact (hl u).1 ho
  | finish c =>
    change c.Backed w at hb
    show c.Backed w'
    have hk : ∀ k ∈ c.keys, k.session = c.session := hk
    rw [Finish.keys] at hk
    rw [Finish.Backed] at hb ⊢
    cases hp : c.phase with
    | taking => trivial
    | releasing left =>
      rw [hp] at hb hk
      exact stays (hk c.key (by simp)) hb
  | abort c closes =>
    change c.Backed w at hb
    show c.Backed w'
    rw [Abort.Backed] at hb ⊢
    rcases hp : c.phase with _ | ⟨_ | ⟨t, ts⟩⟩
    · trivial
    · trivial
    · rw [hp] at hb
      obtain ⟨k, hks, hn⟩ := hb
      exact ⟨k, hks, stays hks hn⟩

lemma Owes.beside (ho : b.Owes w)
    (hst : ∀ k, k.session = b.session → MayAdmit (w.service.status? k) (w'.service.status? k)) :
    b.Owes w' := by
  cases b with
  | start | finish => exact ho
  | entering | inside | utility => exact ho
  | abort c closes =>
    change c.Owes w at ho
    show c.Owes w'
    rw [Abort.Owes] at ho ⊢
    cases hp : c.phase with
    | taking =>
      rw [hp] at ho
      exact ho
    | releasing left =>
      rw [hp] at ho
      obtain ⟨k, hks, hn⟩ := ho
      exact ⟨k, hks, fun hn' => hn ((hst k hks).eq_none.1 hn')⟩

lemma backed_of_isFresh (w : World MemoryHost) (ha : a.isFresh) : a.Backed w := by
  cases a with
  | start c executes =>
    show c.Backed w
    rw [Start.Backed, isFresh_start.1 ha]
    trivial
  | finish c =>
    have hp : c.phase = .taking := by simpa [isFresh] using ha
    show c.Backed w
    rw [Finish.Backed, hp]
    trivial
  | abort c closes =>
    have hp : c.phase = .taking := by simpa [isFresh] using ha
    show c.Backed w
    rw [Abort.Backed, hp]
    trivial
  | entering | inside | utility => trivial

lemma not_owes_of_isFresh (ha : a.isFresh) : ¬a.Owes w := by
  cases a with
  | start c executes => simp [Owes, Start.Owes, isFresh_start.1 ha]
  | finish c =>
    have hp : c.phase = .taking := by simpa [isFresh] using ha
    simp [Owes, Finish.Owes, hp]
  | abort c closes =>
    have hp : c.phase = .taking := by simpa [isFresh] using ha
    simp [Owes, Abort.Owes, hp]
  | entering | inside | utility => exact id

lemma not_awaits_of_isFresh (ha : a.isFresh) (key : QueryKey) (tables : List TableId) :
    ¬a.Awaits key tables := by
  cases a with
  | start c executes =>
    rintro ⟨_, _, hp, -⟩
    rw [isFresh_start.1 ha] at hp
    cases hp
  | entering | inside | finish | abort | utility => exact id

end Activity

end QueryAdmission
