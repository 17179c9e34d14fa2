import QueryAdmission.Call.Admission
import QueryAdmission.Call.Survey

/-!
# Starting a query

A session that starts a query first finishes a query that never reported its end. Then it surveys
the tables of the affected views, registers the query, and sees it through admission. Before it
installs the query as the active one it makes sure, with its own state guarded, that no abort has
removed the record meanwhile. A start that is not scheduled ends at once and touches nothing.
-/

namespace QueryAdmission

/-- Where a start stands; from the second phase on, with the key of the query. -/
inductive Start.Phase where
  /-- About to enter the session. -/
  | entering
  /-- About to give back the tables of a stale query that are left, and then to end it. -/
  | finishing (key stale : QueryKey) (left : List TableId)
  /-- Asking for the tables of the views, and then about to register the query. -/
  | surveying (key : QueryKey) (survey : Survey)
  /-- On the way through admission. -/
  | admitting (key : QueryKey) (admission : Admission)
  /-- About to guard the session and to check the record. -/
  | checking (key : QueryKey) (locked : List TableId)
  /-- The session is guarded: about to make the query the active one. -/
  | installing (key : QueryKey) (locked : List TableId)
  /-- The session is guarded: about to give back the tables that are left. -/
  | undoing (key : QueryKey) (left : List TableId)
  deriving DecidableEq, Repr

/-- A query that a session starts. -/
structure Start where
  session : SessionId
  query : Query
  phase : Start.Phase
  deriving DecidableEq, Repr

namespace Start

/-- A start that begins. -/
def ofQuery (session : SessionId) (query : Query) : Start := ⟨session, query, .entering⟩

/-- Go on in another phase. -/
def inPhase (c : Start) (phase : Phase) : Start := { c with phase }

/-- What comes after the session was entered: a stale query is finished before the survey. -/
def Phase.afterEntry (key : QueryKey) (views : List ViewId) : Option ActiveQuery → Phase
  | some stale => .finishing key stale.key stale.locked.reverse
  | none => .surveying key (.ofViews views)

/-- Carry out the next section of a start. Its result is the key, if the query is scheduled. -/
def advance {σ : Type} [Catalogue σ] [Locking σ] (world : World σ) (c : Start) :
    World σ × Progress Start (Except Refusal (Option QueryKey)) :=
  match c.phase with
  | .entering =>
    match world.session? c.session with
    | none => (world, .done (.ok none))
    | some s =>
      if s.guarded then (world, .sleep c)
      else if s.enforces c.query then
        ({ world.update c.session Session.advance with
            signals := world.signals.lower (.session c.session) },
          .next (c.inPhase (.afterEntry s.nextKey c.query.affected s.active)))
      else (world, .done (.ok none))
  | .finishing key stale (t :: ts) =>
    (world.unlock c.session t, .next (c.inPhase (.finishing key stale ts)))
  | .finishing key stale [] =>
    ({ world with service := (world.service.complete stale).2 },
      .next (c.inPhase (.surveying key (.ofViews c.query.affected))))
  | .surveying key survey =>
    match survey.left with
    | _ :: _ =>
      let (host, survey) := survey.ask world.host
      ({ world with host }, .next (c.inPhase (.surveying key survey)))
    | [] =>
      match world.service.register key c.query.affected c.query.transaction with
      | (.ok _, service) =>
        ({ world with service },
          .next (c.inPhase (.admitting key (.ofKey key survey.tables (.session c.session)))))
      | (.error r, service) => ({ world with service }, .done (.error r))
  | .admitting key admission =>
    match admission.advance world with
    | (world, .next admission) => (world, .next (c.inPhase (.admitting key admission)))
    | (world, .sleep admission) => (world, .sleep (c.inPhase (.admitting key admission)))
    | (world, .done (.ok locked)) => (world, .next (c.inPhase (.checking key locked)))
    | (world, .done (.error r)) => (world, .done (.error r))
  | .checking key locked =>
    if world.isGuarded c.session then (world, .sleep c)
    else if world.service.status? key = some .running then
      (world.update c.session Session.guard, .next (c.inPhase (.installing key locked)))
    else
      (world.update c.session Session.guard, .next (c.inPhase (.undoing key locked.reverse)))
  | .installing key locked =>
    (world.update c.session fun s => (s.install key locked).unguard, .done (.ok (some key)))
  | .undoing key (t :: ts) =>
    (world.unlock c.session t, .next (c.inPhase (.undoing key ts)))
  | .undoing key [] =>
    (world.update c.session Session.unguard, .done (.error (.aborted key)))

/-- The contact that is made next. -/
def upcoming (c : Start) : Option Site :=
  match c.phase with
  | .surveying _ survey => survey.upcoming
  | .admitting _ admission => admission.upcoming
  | _ => none

instance : Stepping Start (Except Refusal (Option QueryKey)) where
  step := advance
  upcoming := upcoming

end Start

end QueryAdmission
