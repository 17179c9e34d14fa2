import QueryAdmission.Call

/-!
# Steps of a scenario

A scenario drives a scheduler step by step. A step is an operation, or a bracket around steps of
its own: an execution or a utility command. Steps may also be hooked into another step, right
before a contact which that step makes with the host.
-/

namespace QueryAdmission

/-- How the body of a bracket ends, after its steps. -/
inductive Outcome where
  /-- With a value. -/
  | value
  /-- With an error of its own. -/
  | failure
  /-- It unwinds. -/
  | panic
  deriving DecidableEq, Repr

/-- An operation without a body. -/
inductive Op where
  | openSession (kind : Session.Kind)
  /-- Close a session: its transaction is aborted first. -/
  | closeSession (session : SessionId)
  /-- Make a call and wait for its result. -/
  | call (call : Call)
  /-- Make a call in the background. -/
  | spawn (call : Call)
  | raise (signal : Signal)
  /-- The tables of the views, through the scheduler's index. -/
  | survey (views : List ViewId)
  /-- The tables of one view, through the scheduler's index. -/
  | dependencies (view : ViewId)
  | register (key : QueryKey) (affected : List ViewId) (transaction : TransactionId)
  | complete (key : QueryKey)
  | pass
  | status (key : QueryKey)
  | giveUp (key : QueryKey)
  | markRunning (key : QueryKey)
  | sweep (session : SessionId)
  | shutDown
  /-- Take a lock in the table itself, which the scheduler does not notice. -/
  | lock (session : SessionId) (table : TableId)
  | unlock (session : SessionId) (table : TableId)
  | held (session : SessionId) (table : TableId)
  | owner (table : TableId)
  | locksHeld (session : SessionId)
  /-- Say what a view depends on. -/
  | view (view : ViewId) (tables : List TableId)
  /-- Forget a view. -/
  | unview (view : ViewId)
  deriving DecidableEq, Repr

mutual

/-- A step of a scenario, with the hooks that were given for it. -/
inductive Step where
  | op (op : Op) (hooks : Option (List Hook))
  | execute (session : SessionId) (query : Query) (body : List Step) (outcome : Outcome)
      (hooks : Option (List Hook))
  | utility (session : SessionId) (body : List Step) (outcome : Outcome)
      (hooks : Option (List Hook))

/-- Steps that run right before the `nth` contact at a site, counted from one. -/
inductive Hook where
  | mk (site : Site) (nth : Nat) (steps : List Step)

end

end QueryAdmission
