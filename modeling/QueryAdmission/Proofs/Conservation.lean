import QueryAdmission.Proofs.Ledger
import QueryAdmission.Proofs.Registration

/-!
# Conservation of queries

Every query that is given a record is accounted for once: it has the record still, or one operation
took it off the roster, and the tally has counted why; only of those that a shutdown sends away
there is no count. What an operation tells its caller is entered in a book (`Service.Op.entries`),
and the book says all about the tally and the roster (`Service.queries_accounted`). That numbers are
given out one by one ties the book to the queries themselves (`Service.tickets`).

A registration of a key that has a record would be counted, and no record would come of it. This is
excluded (`Service.Op.IsFresh`): sessions never register a key twice.
-/

namespace QueryAdmission

/-- What may be told about a query when it comes or goes. -/
inductive Entry where
  | registered | rejected | completed | swept | cancelled
  /-- A wait ended because the scheduler is shut down. -/
  | dismissed
  deriving DecidableEq, Repr

/-- Whether the query's record has left. -/
def Entry.isEnd : Entry → Bool
  | registered | rejected => false
  | completed | swept | cancelled | dismissed => true

/-- Records leave in four ways. -/
lemma Entry.countP_isEnd (entries : List Entry) :
    entries.countP isEnd = entries.count .completed + entries.count .swept
      + entries.count .cancelled + entries.count .dismissed := by
  induction entries with
  | nil => rfl
  | cons e entries ih =>
    simp only [List.countP_cons, List.count_cons, ih]
    cases e <;> simp [isEnd] <;> omega

/-- A tally and a later one: what is counted is what was entered. -/
structure Tally.Counts (t : Tally) (entries : List Entry) (t' : Tally) : Prop where
  registered_eq : t'.registered = t.registered + entries.count .registered
  rejected_eq : t'.rejected = t.rejected + entries.count .rejected
  completed_eq : t'.completed = t.completed + entries.count .completed
  swept_eq : t'.swept = t.swept + entries.count .swept
  cancelled_eq : t'.cancelled = t.cancelled + entries.count .cancelled

lemma Tally.Counts.trans {t t' t'' : Tally} {entries entries' : List Entry}
    (h : t.Counts entries t') (h' : t'.Counts entries' t'') :
    t.Counts (entries ++ entries') t'' := by
  constructor <;> rw [List.count_append, ← Nat.add_assoc]
  · rw [h'.registered_eq, h.registered_eq]
  · rw [h'.rejected_eq, h.rejected_eq]
  · rw [h'.completed_eq, h.completed_eq]
  · rw [h'.swept_eq, h.swept_eq]
  · rw [h'.cancelled_eq, h.cancelled_eq]

/-- What is entered when a waiting query leaves by itself. -/
def Departure.entry : Departure → Entry
  | shutDown => .dismissed
  | cancelled => .cancelled

/-- A query as long as it has a record: its key and its number. -/
def Record.ticket (r : Record) : QueryKey × Nat := (r.key, r.arrival)

namespace Service

/-- What an operation tells its caller about queries that come and go. -/
def Op.entries (s : Service) : Op → List Entry
  | .register key affected transaction =>
    match (s.register key affected transaction).1 with
    | .ok _ => [.registered]
    | .error (.shortage _) => [.rejected]
    | .error _ => []
  | .complete key =>
    match (s.complete key).1 with
    | some _ => [.completed]
    | none => []
  | .poll key called =>
    match (s.poll key called).1 with
    | some (.error .shutDown) => [.dismissed]
    | some (.error (.cancelled _)) => [.cancelled]
    | _ => []
  | .sweep session => .replicate (s.sweep session).1 .swept
  | .pass | .giveUp _ | .markRunning _ | .shutDown => []

/-- Whether the operation registers no key that has a record. -/
def Op.IsFresh (s : Service) : Op → Prop
  | .register key _ _ => s.status? key = none
  | _ => True

instance (s : Service) : (op : Op) → Decidable (op.IsFresh s)
  | .register key _ _ => inferInstanceAs (Decidable (s.status? key = none))
  | .complete _ | .pass | .poll _ _ | .giveUp _ | .markRunning _ | .sweep _ | .shutDown =>
    .isTrue trivial

/-- The queries that have a record. -/
def tickets (s : Service) : List (QueryKey × Nat) := s.records.map Record.ticket

/-- The queries that an operation takes off the roster. -/
def leaving (s : Service) (op : Op) : List (QueryKey × Nat) :=
  s.tickets.filter fun t => t ∉ (s.apply op).tickets

/-- The operations of a run, each with the scheduler that it is applied to. -/
def steps (s : Service) : List Op → List (Service × Op)
  | [] => []
  | op :: ops => (s, op) :: (s.apply op).steps ops

/-! ### Tickets under the operations -/

lemma map_ticket (l : List Record) :
    l.map Record.ticket = (l.map (·.key)).zip (l.map (·.arrival)) :=
  List.zip_map'.symm

@[simp] lemma tickets_pass (s : Service) : s.pass.2.tickets = s.tickets := by
  rw [tickets, tickets, map_ticket, map_ticket]
  exact congrArg₂ List.zip (s.schedule.map_key_pass s.slots) (s.schedule.map_arrival_pass s.slots)

lemma map_ticket_setStatus (r : Roster) (key : QueryKey) (status : Status) :
    (r.setStatus key status).records.map Record.ticket = r.records.map Record.ticket := by
  rw [map_ticket, map_ticket, Roster.map_key_setStatus, Roster.map_arrival_setStatus]

lemma tickets_handOn (s : Service) (freed : Nat) (left waiting : List Record) :
    (s.handOn freed left waiting).tickets = left.map Record.ticket := by
  show (List.map _ left).map _ = _
  rw [List.map_map]
  refine List.map_congr_left fun r _ => ?_
  rw [Function.comp_apply]
  split <;> rfl

/-! ### What one operation enters -/

/-- From a scheduler to a later one these entries were made, and they say how many records have come
and left. -/
structure Counted (s : Service) (entries : List Entry) (s' : Service) : Prop where
  tally : s.tally.Counts entries s'.tally
  arrivals_eq :
    s'.schedule.roster.arrivals = s.schedule.roster.arrivals + entries.count .registered
  balance :
    s'.tickets.length + entries.countP Entry.isEnd = s.tickets.length + entries.count .registered

lemma Counted.refl (s : Service) : s.Counted [] s := ⟨⟨rfl, rfl, rfl, rfl, rfl⟩, rfl, rfl⟩

lemma Counted.trans {s s' s'' : Service} {entries entries' : List Entry}
    (h : s.Counted entries s') (h' : s'.Counted entries' s'') :
    s.Counted (entries ++ entries') s'' where
  tally := h.tally.trans h'.tally
  arrivals_eq := by rw [h'.arrivals_eq, h.arrivals_eq, List.count_append, Nat.add_assoc]
  balance := by
    have hb := h.balance
    have hb' := h'.balance
    rw [List.countP_append, List.count_append]
    omega

/-- These entries were made by one operation. Who stays keeps the order, and those who come stand
last and are numbered on. -/
structure Posted (s : Service) (entries : List Entry) (s' : Service) : Prop
    extends s.Counted entries s' where
  tickets_eq : ∃ stays new, s'.tickets = s.tickets.filter stays ++ new ∧
    new.map (·.2) = List.range' (s.schedule.roster.arrivals + 1) (entries.count .registered)

/-- From a scheduler to a later one no query has come or gone. -/
structure Quiet (s s' : Service) : Prop where
  counts : s.tally.Counts [] s'.tally
  tickets_eq : s'.tickets = s.tickets
  arrivals_eq : s'.schedule.roster.arrivals = s.schedule.roster.arrivals

section Posted

variable {s s' s'' : Service} {entries : List Entry} {key : QueryKey} {r : Record}

lemma Quiet.refl (s : Service) : s.Quiet s := ⟨⟨rfl, rfl, rfl, rfl, rfl⟩, rfl, rfl⟩

lemma counts_of_ledger_eq (h : s'.ledger = s.ledger) : s.tally.Counts [] s'.tally where
  registered_eq := congrArg Ledger.registered h
  rejected_eq := congrArg Ledger.rejected h
  completed_eq := congrArg Ledger.completed h
  swept_eq := congrArg Ledger.swept h
  cancelled_eq := congrArg Ledger.cancelled h

lemma Quiet.counted (h : s.Quiet s') : s.Counted [] s' :=
  ⟨h.counts, h.arrivals_eq, congrArg List.length h.tickets_eq⟩

lemma Quiet.posted (h : s.Quiet s') : s.Posted [] s' :=
  ⟨h.counted, fun _ => true, [], by simp [h.tickets_eq]⟩

/-- What is done before, when no query comes or goes by it, belongs to the operation. -/
lemma Quiet.posted_trans (h : s.Quiet s') (h' : s'.Posted entries s'') : s.Posted entries s'' where
  toCounted := h.counted.trans h'.toCounted
  tickets_eq := by
    rw [← h.tickets_eq, ← h.arrivals_eq]
    exact h'.tickets_eq

lemma quiet_pass (s : Service) : s.Quiet s.pass.2 :=
  ⟨counts_of_ledger_eq s.ledger_pass, s.tickets_pass, rfl⟩

lemma quiet_look (s : Service) (key : QueryKey) : s.Quiet (s.look key).2 := by
  refine ⟨counts_of_ledger_eq (s.level_look key).ledger_eq, ?_, ?_⟩ <;> rw [look] <;> split
  · rfl
  · dsimp only
    split
    · exact tickets_pass _
    · rfl
  · rfl
  · dsimp only
    split <;> rfl

lemma quiet_markRunning (s : Service) (key : QueryKey) : s.Quiet (s.markRunning key).2 := by
  refine ⟨counts_of_ledger_eq (s.level_markRunning key).ledger_eq, ?_, ?_⟩ <;>
    rw [markRunning] <;> split
  · rfl
  · exact map_ticket_setStatus s.schedule.roster key .running
  · rfl
  · rfl

lemma Ranked.quiet_giveUp (h : s.Ranked) (key : QueryKey) : s.Quiet (s.giveUp key) := by
  rcases hf : s.find? key with _ | r
  · rw [Service.giveUp, hf]
    exact .refl s
  · refine ⟨counts_of_ledger_eq (s.level_giveUp key).ledger_eq, ?_, ?_⟩ <;> rw [h.giveUp_eq hf]
    · exact (tickets_handOn s _ _ _).trans (map_ticket_setStatus s.schedule.roster key .waiting)
    · rfl

/-- Some records leave, slots go to others, and this is counted. -/
lemma posted_handOn (stays : QueryKey × Nat → Bool) (count : Tally → Tally)
    (hcount : ∀ t : Tally, t.Counts entries (count t)) (hnew : entries.count .registered = 0)
    (hgone : (s.tickets.filter stays).length + entries.countP Entry.isEnd = s.tickets.length)
    (freed : Nat) (waiting : List Record) :
    s.Posted entries
      ((s.handOn freed (s.records.filter fun r => stays r.ticket) waiting).count count) := by
  set s' := (s.handOn freed (s.records.filter fun r => stays r.ticket) waiting).count count
  have htickets : s'.tickets = s.tickets.filter stays := by
    refine (tickets_handOn s freed _ waiting).trans ?_
    rw [tickets, List.filter_map]
    rfl
  obtain ⟨h₁, h₂, h₃, h₄, h₅⟩ := hcount (s.handOn freed _ waiting).tally
  refine ⟨⟨⟨h₁, h₂, h₃, h₄, h₅⟩, ?_, ?_⟩, stays, [], ?_, ?_⟩
  · rw [hnew]
    rfl
  · rw [htickets, hgone, hnew]
    rfl
  · rw [htickets, List.append_nil]
  · rw [hnew]
    rfl

/-- One ticket is given back. -/
lemma Ranked.length_tickets (h : s.Ranked) (hf : s.find? key = some r) :
    (s.tickets.filter (·.1 ≠ key)).length + 1 = s.tickets.length := by
  rw [tickets, List.filter_map, List.length_map, List.length_map]
  exact Roster.length_filter_key h.roster.keys_nodup hf

/-- A query is over. -/
lemma Ranked.posted_complete (h : s.Ranked) (key : QueryKey) :
    s.Posted ((Op.complete key).entries s) (s.complete key).2 := by
  rcases hf : s.find? key with _ | r
  · have hs : s.complete key = (none, s) := by
      simp only [Service.complete, Service.withdraw, Roster.remove]
      rw [show s.schedule.roster.find? key = none from hf]
    rw [Op.entries, hs]
    exact (Quiet.refl s).posted
  · rw [Op.entries, h.complete_eq hf]
    refine posted_handOn (fun t => t.1 ≠ key)
      (fun t => { t with completed := t.completed + 1 }) (fun _ => ?_) rfl ?_ _ _
    · exact ⟨rfl, rfl, rfl, rfl, rfl⟩
    · exact h.length_tickets hf

/-- A query leaves by itself. -/
lemma Ranked.posted_depart (h : s.Ranked) (hf : s.find? key = some r) (why : Departure) :
    s.Posted [why.entry] (s.depart key why) := by
  cases why with
  | shutDown =>
    rw [Service.depart, h.withdraw_eq hf]
    refine posted_handOn (fun t => t.1 ≠ key) id (fun _ => ?_) rfl ?_ _ _
    · exact ⟨rfl, rfl, rfl, rfl, rfl⟩
    · exact h.length_tickets hf
  | cancelled =>
    rw [Service.depart, h.withdraw_eq hf]
    refine posted_handOn (fun t => t.1 ≠ key)
      (fun t => { t with cancelled := t.cancelled + 1 }) (fun _ => ?_) rfl ?_ _ _
    · exact ⟨rfl, rfl, rfl, rfl, rfl⟩
    · exact h.length_tickets hf

/-- A wait is polled. It leaves only when it was found on the roster. -/
lemma Ranked.posted_poll (h : s.Ranked) (key : QueryKey) (called : Bool) :
    s.Posted ((Op.poll key called).entries s) (s.poll key called).2 := by
  have hquiet := s.quiet_look key
  have hlook := h.look key
  rw [Op.entries, Service.poll]
  rcases heq : s.look key with ⟨_ | _ | _, s'⟩ <;> rw [heq] at hquiet hlook
  · exact hquiet.posted
  · exact hquiet.posted
  · obtain ⟨status, hstatus, -⟩ := s.look_found key heq (by simp)
    obtain ⟨r, hf, -⟩ := Option.map_eq_some_iff.1 hstatus
    by_cases hs : s'.isShut
    · simpa [hs, Departure.entry] using hquiet.posted_trans (hlook.posted_depart hf .shutDown)
    · by_cases hc : called
      · simpa [hs, hc, Departure.entry] using
          hquiet.posted_trans (hlook.posted_depart hf .cancelled)
      · simpa [hs, hc] using hquiet.posted

/-- A session is swept. -/
lemma Ranked.posted_sweep (h : s.Ranked) (session : SessionId) :
    s.Posted ((Op.sweep session).entries s) (s.sweep session).2 := by
  by_cases hlive : ∃ r ∈ s.records, r.session = session
  · have hperm := (s.records.filter_append_perm (·.session = session)).length_eq
    rw [Op.entries, h.sweep_eq hlive]
    set gone := s.records.filter (·.session = session) with hgone
    refine posted_handOn (fun t => t.1.session ≠ session)
      (fun t => { t with swept := t.swept + gone.length }) (fun t => ?_) ?_ ?_ _ _
    · constructor <;> simp [List.count_replicate]
    · simp [List.count_replicate]
    · have hend : (List.replicate gone.length Entry.swept).countP Entry.isEnd = gone.length := by
        simp [List.countP_replicate, Entry.isEnd]
      rw [tickets, List.filter_map, List.length_map, List.length_map, hend]
      rw [← hperm, List.length_append, Nat.add_comm]
      simp only [decide_not]
      rfl
  · have hnone : s.records.filter (·.session = session) = [] := by
      simpa [List.filter_eq_nil_iff] using hlive
    have hs : s.sweep session = (0, s) := by
      rw [Service.sweep, Roster.removeSession,
        show s.schedule.roster.records.filter (·.session = session) = [] from hnone]
    rw [Op.entries, hs]
    exact (Quiet.refl s).posted

/-- A query is put on the roster. -/
lemma posted_enter (hr : r.arrival = s.schedule.roster.arrivals + 1) :
    s.Posted [.registered] (s.enter { s.schedule.roster with
      records := s.records ++ [r], arrivals := s.schedule.roster.arrivals + 1 }) := by
  set s' := s.enter { s.schedule.roster with
    records := s.records ++ [r], arrivals := s.schedule.roster.arrivals + 1 }
  have htickets : s'.tickets = s.tickets ++ [r.ticket] := (tickets_pass _).trans List.map_append
  refine ⟨⟨⟨rfl, rfl, rfl, rfl, rfl⟩, rfl, ?_⟩, fun _ => true, [r.ticket], ?_, ?_⟩
  · rw [htickets, List.length_append]
    rfl
  · simp [htickets]
  · simp [Record.ticket, hr]

/-- A query that has no record is registered, or refused. -/
lemma posted_register (hfresh : s.status? key = none) (affected : List ViewId)
    (transaction : TransactionId) :
    s.Posted ((Op.register key affected transaction).entries s)
      (s.register key affected transaction).2 := by
  rw [Op.entries]
  rcases hs : s.isShut with _ | _
  · rcases hr : s.schedule.roster.register key affected transaction with refusal | ⟨r, roster⟩
    · rw [register_of_error hs hr]
      obtain ⟨what, rfl⟩ : ∃ what, refusal = .shortage what := by
        rcases Roster.register_eq_error_iff.1 hr with ⟨-, h⟩ | ⟨-, -, -, h⟩ <;> exact ⟨_, h⟩
      refine ⟨⟨⟨rfl, rfl, rfl, rfl, rfl⟩, rfl, rfl⟩, fun _ => true, [], ?_, rfl⟩
      rw [List.filter_true, List.append_nil]
      rfl
    · rw [register_of_ok hs hr]
      rcases Roster.register_eq_ok hr with ⟨hf, -⟩ | ⟨-, -, hrecord, rfl⟩
      · rw [Service.status?, Roster.status?, hf] at hfresh
        cases hfresh
      · exact posted_enter (by rw [hrecord])
  · rw [register_of_shut hs]
    exact (Quiet.refl s).posted

/-- What any operation enters. -/
lemma Ranked.posted (h : s.Ranked) {op : Op} (hop : op.IsFresh s) :
    s.Posted (op.entries s) (s.apply op) := by
  cases op with
  | register key affected transaction => exact posted_register hop affected transaction
  | complete key => exact h.posted_complete key
  | pass => exact s.quiet_pass.posted
  | poll key called => exact h.posted_poll key called
  | giveUp key => exact (h.quiet_giveUp key).posted
  | markRunning key => exact (s.quiet_markRunning key).posted
  | sweep session => exact h.posted_sweep session
  | shutDown => exact Quiet.posted ⟨⟨rfl, rfl, rfl, rfl, rfl⟩, rfl, rfl⟩

end Posted

/-! ### What a run enters -/

/-- These entries were made by a run, and these queries have gone. Who came was numbered one by
one. -/
structure Booked (s : Service) (entries : List Entry) (gone : List (QueryKey × Nat))
    (s' : Service) : Prop extends s.Counted entries s' where
  perm : ((gone ++ s'.tickets).map (·.2)).Perm (s.tickets.map (·.2)
    ++ List.range' (s.schedule.roster.arrivals + 1) (entries.count .registered))

section Booked

variable {s s' s'' : Service} {entries entries' : List Entry} {gone gone' : List (QueryKey × Nat)}

lemma Booked.refl (s : Service) : s.Booked [] [] s := ⟨.refl s, by simp⟩

lemma Booked.trans (h : s.Booked entries gone s') (h' : s'.Booked entries' gone' s'') :
    s.Booked (entries ++ entries') (gone ++ gone') s'' where
  toCounted := h.toCounted.trans h'.toCounted
  perm := by
    have hp := h.perm
    have hp' := h'.perm
    rw [List.count_append, ← List.range'_append_1, Nat.add_right_comm]
    rw [h.arrivals_eq] at hp'
    simp only [List.map_append, List.append_assoc] at hp hp' ⊢
    refine (hp'.append_left _).trans ?_
    rw [← List.append_assoc, ← List.append_assoc]
    exact hp.append_right _

/-- Numbers of queries that come are new, so nobody else is mistaken for one of them. -/
lemma Ranked.booked (h : s.Ranked) (hp : s.Posted entries s') :
    s.Booked entries (s.tickets.filter fun t => t ∉ s'.tickets) s' := by
  obtain ⟨stays, new, htickets, hnew⟩ := hp.tickets_eq
  refine ⟨hp.toCounted, ?_⟩
  have hold (t : QueryKey × Nat) (ht : t ∈ s.tickets) : t ∉ new := fun hm => by
    obtain ⟨r, hr, rfl⟩ := List.mem_map.1 ht
    have hle := h.roster.numbered r hr
    have hmem : r.arrival ∈ new.map (·.2) := List.mem_map_of_mem hm
    rw [hnew, List.mem_range'_1] at hmem
    omega
  have hgone : s.tickets.filter (fun t => t ∉ s'.tickets) = s.tickets.filter fun t => !stays t := by
    refine List.filter_congr fun t ht => ?_
    simp [htickets, ht, hold t ht]
  rw [hgone, htickets, ← List.append_assoc, List.map_append, hnew]
  refine List.Perm.append_right _ (List.Perm.map _ ?_)
  exact List.perm_append_comm.trans (s.tickets.filter_append_perm stays)

lemma Ranked.booked_steps (h : s.Ranked) (ops : List Op)
    (hfresh : ∀ p ∈ s.steps ops, p.2.IsFresh p.1) :
    s.Booked ((s.steps ops).flatMap fun p => p.2.entries p.1)
      ((s.steps ops).flatMap fun p => p.1.leaving p.2) (ops.foldl Service.apply s) := by
  induction ops generalizing s with
  | nil => exact .refl s
  | cons op ops ih =>
    obtain ⟨hop, hops⟩ := List.forall_mem_cons.1 hfresh
    exact (h.booked (h.posted hop)).trans (ih (h.apply op) hops)

end Booked

/-- In a run on a scheduler with settings in order, in which no key that has a record is registered:
as many queries were registered as are over, were swept, were called off or were sent away by a
shutdown, and as have a record still; and as many registrations count as rejected as were refused
for a shortage. Each count is that of what the callers were told. Every number from one on that a
query was given is either on the roster, or it has left it in one operation. -/
theorem queries_accounted {settings : Settings} {s₀ : Service} (hb : build settings = .ok s₀)
    (ops : List Op) (hfresh : ∀ p ∈ s₀.steps ops, p.2.IsFresh p.1) :
    let s := ops.foldl apply s₀
    let entries := (s₀.steps ops).flatMap fun p => p.2.entries p.1
    let gone := (s₀.steps ops).flatMap fun p => p.1.leaving p.2
    s.tally.registered = s.tally.completed + s.tally.swept + s.tally.cancelled
        + entries.count .dismissed + s.records.length ∧
      s.tally.rejected = entries.count .rejected ∧
      s.tally.registered = entries.count .registered ∧
      s.tally.completed = entries.count .completed ∧
      s.tally.swept = entries.count .swept ∧
      s.tally.cancelled = entries.count .cancelled ∧
      ((gone ++ s.tickets).map (·.2)).Perm (List.range' 1 s.tally.registered) := by
  intro s entries gone
  obtain ⟨rfl, -⟩ := build_eq_ok hb
  have hbooked : (ofSettings settings).Booked entries gone s :=
    (ranked_ofSettings settings).booked_steps ops hfresh
  have hregistered : s.tally.registered = entries.count .registered :=
    hbooked.tally.registered_eq.trans (Nat.zero_add _)
  have hcompleted : s.tally.completed = entries.count .completed :=
    hbooked.tally.completed_eq.trans (Nat.zero_add _)
  have hswept : s.tally.swept = entries.count .swept :=
    hbooked.tally.swept_eq.trans (Nat.zero_add _)
  have hcancelled : s.tally.cancelled = entries.count .cancelled :=
    hbooked.tally.cancelled_eq.trans (Nat.zero_add _)
  refine ⟨?_, hbooked.tally.rejected_eq.trans (Nat.zero_add _), hregistered, hcompleted, hswept,
    hcancelled, ?_⟩
  · have hbalance : s.tickets.length + entries.countP Entry.isEnd = entries.count .registered :=
      hbooked.balance.trans (Nat.zero_add _)
    have hlength : s.tickets.length = s.records.length := List.length_map _
    rw [Entry.countP_isEnd] at hbalance
    omega
  · rw [hregistered]
    exact hbooked.perm

/-- Of four queries one is over, one is called off, one is sent away by a shutdown, and one is
swept; a fifth one was refused for want of a place. -/
theorem queries_accounted_five :
    let settings : Settings := ⟨1, 1, 3, .ofNanos 30000⟩
    let ops : List Op :=
      [.register ⟨1, 1⟩ [1] 7, .register ⟨2, 1⟩ [1] 8, .register ⟨3, 1⟩ [1] 9,
        .register ⟨4, 1⟩ [1] 10, .complete ⟨1, 1⟩, .register ⟨1, 2⟩ [1] 7, .poll ⟨3, 1⟩ true,
        .shutDown, .poll ⟨1, 2⟩ false, .sweep 2]
    let s₀ := ofSettings settings
    let s := ops.foldl apply s₀
    let entries := (s₀.steps ops).flatMap fun p => p.2.entries p.1
    build settings = .ok s₀ ∧ (∀ p ∈ s₀.steps ops, p.2.IsFresh p.1) ∧
      s.tally.registered = s.tally.completed + s.tally.swept + s.tally.cancelled
        + entries.count .dismissed + s.records.length ∧
      entries = [.registered, .registered, .registered, .rejected, .completed, .registered,
        .cancelled, .dismissed, .swept] ∧
      s.tally = ⟨4, 1, 2, 0, 0, 1, 1, 1⟩ ∧ s.records = [] := by
  intro settings ops s₀ s entries
  have hb : build settings = .ok s₀ := rfl
  have hfresh : ∀ p ∈ s₀.steps ops, p.2.IsFresh p.1 := by decide +kernel
  refine ⟨hb, hfresh, ?_, by decide +kernel, by decide +kernel, by decide +kernel⟩
  -- The balance is not evaluated.
  clear_value s₀ ops
  exact (queries_accounted hb ops hfresh).1

end Service

end QueryAdmission
