import QueryAdmission.Proofs.Freed
import QueryAdmission.Proofs.Reach
import QueryAdmission.Proofs.Rollback

/-!
# What an abort leaves

An abort between whose sections nothing else happens sweeps its session clean: the active query is
gone, all records of the session, and the session's hold of the tables that were locked for the
query. To others nothing happens but that they are given the slots that come free
(`World.Abandoned`). After that there is nothing left to do for another abort, nor for the end of
any query of the session (`World.abort_sweeps`). This holds wherever the abort finds its session,
even in the middle of a start, unless another call has the session guarded.
-/

namespace QueryAdmission

namespace World

variable {w w' : World MemoryHost} {id other : SessionId} {s : Session} {tables : List TableId}
  {settings : Settings}

lemma update_update {σ : Type} (w : World σ) (id : SessionId) {f : Session → Session}
    (hf : ∀ s, (f s).id = s.id) (g : Session → Session) :
    (w.update id f).update id g = w.update id fun s => g (f s) := by
  have hmap : (w.sessions.map fun s => if s.id = id then f s else s).map
      (fun s => if s.id = id then g s else s)
        = w.sessions.map fun s => if s.id = id then g (f s) else s := by
    rw [List.map_map]
    refine List.map_congr_left fun s _ => ?_
    by_cases hs : s.id = id <;> simp [hs, hf]
  unfold update
  rw [hmap]

/-- The world after an abort between whose sections nothing happens, in a session whose active query
has these tables. -/
def abandon (w : World MemoryHost) (id : SessionId) (tables : List TableId) : World MemoryHost :=
  { w.update id fun s => s.vacate.unguard with
    service := (w.service.sweep id).2
    host := { w.host with locks := w.host.locks.release id tables } }

/-- The tables are given back one after the other. -/
lemma runUntilAsleep_releasing (w : World MemoryHost) (id : SessionId) (tables : List TableId)
    (fuel : Nat) :
    runUntilAsleep (fuel + tables.length) w (⟨id, .releasing tables.reverse⟩ : Abort)
      = runUntilAsleep fuel
          { w with host := { w.host with locks := w.host.locks.release id tables } }
          (⟨id, .releasing []⟩ : Abort) := by
  induction tables using List.reverseRecOn generalizing w with
  | nil => rfl
  | append_singleton tables t ih =>
    have hstep : (⟨id, .releasing (t :: tables.reverse)⟩ : Abort).advance w
        = (w.unlock id t, .next ⟨id, .releasing tables.reverse⟩) := rfl
    rw [List.reverse_concat, List.length_append, List.length_singleton, ← Nat.add_assoc,
      runUntilAsleep_next hstep, ih, LockTable.release, LockTable.release, List.foldr_append]
    rfl

/-- An abort that finds its session unguarded, from its first section to its last. -/
lemma runUntilAsleep_abort (hs : w.session? id = some s) (hg : s.guarded = false) (fuel : Nat) :
    runUntilAsleep (fuel + (s.lockedTables.length + 2)) w (Abort.ofSession id)
      = (w.abandon id s.lockedTables, .inr ()) := by
  have htake : (Abort.ofSession id).advance w
      = (w.update id fun s => s.vacate.guard, .next ⟨id, .releasing s.lockedTables.reverse⟩) := by
    simp [Abort.advance, Abort.ofSession, hs, hg]
  have hsweep (w : World MemoryHost) : (⟨id, .releasing []⟩ : Abort).advance w
      = ({ w with service := (w.service.sweep id).2 }.update id Session.unguard, .done ()) := rfl
  have hfuel : fuel + (s.lockedTables.length + 2) = fuel + 1 + s.lockedTables.length + 1 := by
    omega
  have hsame := update_update w id (f := fun s => s.vacate.guard) (fun _ => rfl) Session.unguard
  rw [hfuel, runUntilAsleep_next htake, runUntilAsleep_releasing, runUntilAsleep_done (hsweep _)]
  refine congrArg (·, _) ?_
  rw [abandon, ← show (w.update id fun s => s.vacate.guard.unguard)
    = w.update id fun s => s.vacate.unguard from rfl, ← hsame]
  rfl

lemma session?_abandon (hs : w.session? id = some s) (hg : s.guarded = false)
    (tables : List TableId) :
    (w.abandon id tables).session? id = some { s with active := none } := by
  have h : (w.abandon id tables).session? id = some s.vacate.unguard :=
    session?_update_self hs fun _ => rfl
  have hsame : s.vacate.unguard = { s with active := none } := by
    rw [Session.unguard, Session.vacate, ← hg]
  rwa [hsame] at h

/-- No record of the session is left. -/
lemma session_ne_of_mem_abandon {r : Record} (hr : r ∈ (w.abandon id tables).service.records) :
    r.session ≠ id := by
  rintro rfl
  have hnone : (w.service.sweep r.session).2.status? r.key = none :=
    w.service.status?_sweep_self rfl
  exact Roster.status?_eq_none.1 hnone r hr rfl

/-- Another sweep changes nothing. -/
lemma sweep_of_forall_ne (h : ∀ r ∈ w.service.records, r.session ≠ id) :
    (w.service.sweep id).2 = w.service :=
  w.service.sweep_of_none fun _ hk =>
    Roster.status?_eq_none.2 fun r hr hrk => h r hr (by rw [Record.session, hrk, hk])

/-- Once is enough. -/
lemma abandon_abandon (w : World MemoryHost) (id : SessionId) (tables : List TableId) :
    (w.abandon id tables).abandon id [] = w.abandon id tables := by
  have hservice : ((w.abandon id tables).service.sweep id).2 = (w.abandon id tables).service :=
    sweep_of_forall_ne fun r hr => session_ne_of_mem_abandon hr
  have hsessions := update_update w id (f := fun s => s.vacate.unguard) (fun _ => rfl)
    fun s => s.vacate.unguard
  rw [abandon, hservice]
  exact congrArg
    (fun x : World MemoryHost =>
      { x with service := (w.abandon id tables).service, host := (w.abandon id tables).host })
    hsessions

/-- What an abort makes of the world, in a session with that state before. -/
structure Abandoned (settings : Settings) (id : SessionId) (s : Session) (w w' : World MemoryHost) :
    Prop where
  /-- No query is active, and all else in the session is as it was. -/
  session? : w'.session? id = some { s with active := none }
  elsewhere : ∀ other, other ≠ id → w'.session? other = w.session? other
  signals : w'.signals = w.signals
  index : w'.host.index = w.host.index
  freed : ∀ u ∈ s.lockedTables, w'.host.locks.owner u ≠ some id
  kept : ∀ u, u ∉ s.lockedTables ∨ w.host.locks.owner u ≠ some id →
    w'.host.locks.owner u = w.host.locks.owner u
  gone : ∀ r ∈ w'.service.records, r.session ≠ id
  idle : (∀ r ∈ w.service.records, r.session ≠ id) → w'.service = w.service
  sorted : w.service.records.Pairwise (·.arrival < ·.arrival)
  /-- The slots that come free go to the oldest queries of others. -/
  swept : (∃ r ∈ w.service.records, r.session = id) →
    let gone := w.service.records.filter (·.session = id)
    let others := w.service.records.filter (·.session ≠ id)
    w'.service
      = (w.service.handOn (gone.countP Record.holdsSlot) others
          (others.filter (·.status = .waiting))).count
        fun t => { t with swept := t.swept + gone.length }
  /-- Either all slots are in use then, or nobody waits. -/
  full : (∃ r ∈ w.service.records, r.session = id) →
    w'.service.running = settings.maxConcurrent.toNat ∨
      ∀ r ∈ w'.service.records, r.status ≠ .waiting

lemma Reached.abandoned (h : w.Reached settings) (hs : w.session? id = some s)
    (hg : s.guarded = false) : Abandoned settings id s w (w.abandon id s.lockedTables) := by
  have hranked := h.service.ranked
  have howner (u : TableId) : (w.abandon id s.lockedTables).host.locks.owner u
      = if u ∈ s.lockedTables ∧ w.host.locks.owner u = some id then none
        else w.host.locks.owner u := w.host.locks.owner_release id s.lockedTables u
  have hswept (hlive : ∃ r ∈ w.service.records, r.session = id) :=
    congrArg Prod.snd (hranked.sweep_eq hlive)
  constructor
  case session? => exact session?_abandon hs hg s.lockedTables
  case elsewhere =>
    intro other ho
    have hne := w.session?_update_ne ho (f := fun s => s.vacate.unguard) fun _ => rfl
    exact hne
  case signals => rfl
  case index => rfl
  case freed =>
    intro u hu ho
    rw [howner] at ho
    split_ifs at ho with hc
    exact hc ⟨hu, ho⟩
  case kept =>
    intro u hu
    rw [howner, if_neg]
    rintro ⟨hm, ho⟩
    exact hu.elim (· hm) (· ho)
  case gone => exact fun r hr => session_ne_of_mem_abandon hr
  case idle => exact sweep_of_forall_ne
  case sorted => exact hranked.roster.sorted
  case swept => exact hswept
  case full =>
    intro hlive
    have hslots : w.service.slots = settings.maxConcurrent.toNat := by
      rw [Service.slots, h.service.settings_eq]
    have hservice : (w.abandon id s.lockedTables).service = _ := hswept hlive
    rw [hservice, ← hslots]
    exact w.service.handOn_full _ _

/-- In any world that comes of a scheduler, an abort waits if its session is guarded by another
call. Otherwise it sweeps the session clean, hands the slots that come free to the oldest queries of
others, and touches nothing else; and then another abort changes nothing at all, and neither does
the end of any query of the session. -/
theorem abort_sweeps (h : w.Reached settings) (hs : w.session? id = some s) :
    (s.guarded = true → ∀ fuel, runUntilAsleep (fuel + 1) w (Abort.ofSession id)
        = (w, .inl (Abort.ofSession id))) ∧
      (s.guarded = false → ∃ w', Abandoned settings id s w w' ∧
        (∀ fuel, runUntilAsleep (fuel + (s.lockedTables.length + 2)) w (Abort.ofSession id)
          = (w', .inr ())) ∧
        (∀ fuel, runUntilAsleep (fuel + 2) w' (Abort.ofSession id) = (w', .inr ())) ∧
        ∀ key fuel, runUntilAsleep (fuel + 1) w' (Finish.ofKey id key) = (w', .inr ())) := by
  constructor
  · intro hg fuel
    have hbarred : (Abort.ofSession id).advance w = (w, .sleep (Abort.ofSession id)) := by
      simp [Abort.advance, Abort.ofSession, hs, hg]
    exact runUntilAsleep_sleep hbarred fuel
  · intro hg
    -- No query is active any more, so that another abort finds no table to give back.
    have hs' := session?_abandon hs hg s.lockedTables
    refine ⟨_, h.abandoned hs hg, runUntilAsleep_abort hs hg, fun fuel => ?_, fun key fuel => ?_⟩
    · have hagain := runUntilAsleep_abort hs' hg fuel
      rwa [show Session.lockedTables { s with active := none } = [] from rfl,
        abandon_abandon] at hagain
    · have hstale : (Finish.ofKey id key).advance (w.abandon id s.lockedTables)
          = (w.abandon id s.lockedTables, .done ()) := by
        simp [Finish.advance, Finish.ofKey, hs', hg]
      exact runUntilAsleep_done hstale fuel

/-- With one slot: the query of the first session runs, and that of the second one waits. After an
abort of the first session, the second one has the slot. -/
theorem abort_sweeps_in_use :
    let settings : Settings := ⟨1, 4, 4, .ofNanos 30000⟩
    let query (view : ViewId) : Query := ⟨"select", 7, [view], false, false⟩
    let host : MemoryHost := ⟨.ofList [(1, [10]), (2, [20])], .empty⟩
    let w₀ : World MemoryHost := .ofService (.ofSettings settings) host
    let w₁ := ((w₀.openSession .backend).2.openSession .backend).2
    let w₂ := (runUntilAsleep 30 w₁ (Call.start (.ofQuery 1 (query 1)))).1
    let w := (runUntilAsleep 30 w₂ (Call.start (.ofQuery 2 (query 2)))).1
    let s : Session := ⟨1, .backend, 0, false, 1, some ⟨⟨1, 1⟩, [10]⟩, false⟩
    w.Reached settings ∧ w.session? 1 = some s ∧ w.host.locks.owner 10 = some 1 ∧
      w.service.status? ⟨2, 1⟩ = some .waiting ∧
      ∃ w', Abandoned settings 1 s w w' ∧ runUntilAsleep 3 w (Abort.ofSession 1) = (w', .inr ()) ∧
        w'.service.records = [⟨⟨2, 1⟩, .available, [2], 7, 2⟩] ∧
        runUntilAsleep 2 w' (Abort.ofSession 1) = (w', .inr ()) ∧
        runUntilAsleep 1 w' (Finish.ofKey 1 ⟨1, 1⟩) = (w', .inr ()) := by
  intro settings query host w₀ w₁ w₂ w s
  have h₀ : w₀.Reached settings := .built rfl _
  have h₁ : w₁.Reached settings := (h₀.effect (.openSession .backend)).effect (.openSession .backend)
  have h : w.Reached settings := (h₁.runUntilAsleep 30 _).runUntilAsleep 30 _
  have hs : w.session? 1 = some s := by decide +kernel
  obtain ⟨w', hab, habort, hagain, hfinish⟩ := (abort_sweeps h hs).2 rfl
  have hrecords : w'.service.records = [⟨⟨2, 1⟩, .available, [2], 7, 2⟩] := by
    rw [hab.swept (by decide +kernel)]
    decide +kernel
  exact ⟨h, hs, by decide +kernel, by decide +kernel, w', hab, habort 0, hrecords, hagain 0,
    hfinish _ 0⟩

end World

end QueryAdmission
