import QueryAdmission.Ident

/-!
# Sessions

A session brackets the queries that its host executes. It schedules the outermost ones only:
whatever is executed inside a query, or inside a utility command, belongs to what surrounds it.
-/

namespace QueryAdmission

/-- What a host says about a query that starts. -/
structure Query where
  source : String
  transaction : TransactionId
  affected : List ViewId
  isUtility : Bool
  /-- The query is explained, and not executed. -/
  explainOnly : Bool
  deriving DecidableEq, Repr

/-- A query that runs: its key, and the tables that were locked for it in the order of locking. -/
structure ActiveQuery where
  key : QueryKey
  locked : List TableId
  deriving DecidableEq, Repr

/-- Who works in a session. -/
inductive Session.Kind where
  | backend
  /-- A worker on behalf of a session whose query is already scheduled. -/
  | parallelWorker
  deriving DecidableEq, Repr

/-- A session of the host. -/
structure Session where
  id : SessionId
  kind : Session.Kind
  /-- How many executions are open, one inside the other. -/
  nesting : Nat
  /-- Whether a utility command is open. -/
  inUtility : Bool
  /-- How many queries the session has started to schedule. The program counts in a 64-bit word:
  fewer than 2^64 such queries are assumed. -/
  sequence : Nat
  active : Option ActiveQuery
  /-- Whether a call is in the middle of changing the session, so that other calls have to wait. -/
  guarded : Bool
  deriving DecidableEq, Repr

namespace Session

/-- The kind as it is displayed. -/
def Kind.text : Kind → String
  | backend => "Backend"
  | parallelWorker => "ParallelWorker"

/-- A session in which nothing has happened. -/
def fresh (id : SessionId) (kind : Kind) : Session := ⟨id, kind, 0, false, 0, none, false⟩

/-- The key of the query that runs. -/
def activeKey (s : Session) : Option QueryKey := s.active.map (·.key)

/-- The tables that are locked for the query that runs. -/
def lockedTables (s : Session) : List TableId := (s.active.map (·.locked)).getD []

/-- Whether the session schedules the query: it is a backend's, it is not nested and no utility
command, it is to be executed, and it has a source text. -/
def enforces (s : Session) (q : Query) : Bool :=
  s.kind = .backend && s.nesting = 0 && !s.inUtility && !q.isUtility && !q.explainOnly
    && q.source ≠ ""

/-- The key of the next query. -/
def nextKey (s : Session) : QueryKey := ⟨s.id, s.sequence + 1⟩

/-- Begin a query: the next number is used up, and no query is active. -/
def advance (s : Session) : Session := { s with sequence := s.sequence + 1, active := none }

/-- Take the active query out. -/
def vacate (s : Session) : Session := { s with active := none }

/-- Make a query the active one. -/
def install (s : Session) (key : QueryKey) (locked : List TableId) : Session :=
  { s with active := some ⟨key, locked⟩ }

/-- Keep other calls out. -/
def guard (s : Session) : Session := { s with guarded := true }

/-- Let other calls in again. -/
def unguard (s : Session) : Session := { s with guarded := false }

/-- Open a utility command, or close it by going back to what was before. -/
def setUtility (s : Session) (inUtility : Bool) : Session := { s with inUtility }

/-- Go into an execution. -/
def enter (s : Session) : Session := { s with nesting := s.nesting + 1 }

/-- Come out of an execution. -/
def leave (s : Session) : Session := { s with nesting := s.nesting - 1 }

theorem leave_enter (s : Session) : s.enter.leave = s := by
  cases s; simp [enter, leave]

theorem unguard_guard (s : Session) (h : s.guarded = false) : s.guard.unguard = s := by
  cases s; simp_all [guard, unguard]

theorem enforces_enter (s : Session) (q : Query) : s.enter.enforces q = false := by
  simp [enter, enforces]

end Session

end QueryAdmission
