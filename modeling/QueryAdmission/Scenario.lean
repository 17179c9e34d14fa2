import QueryAdmission.Scenario.Stage

/-!
# Scenarios

A scenario sets a scheduler up on a host in memory and takes its steps one after the other.
Every step, also one inside another, ends by settling: the background calls run until all that are
left are parked. Only then is its answer complete.
-/

namespace QueryAdmission

/-- A scheduler, its views, and what is done with it. -/
structure Scenario where
  settings : Settings
  views : List (ViewId × List TableId)
  steps : List Step

namespace Scenario

variable (patience : Patience)

/-- Carry out an operation. -/
def runOp (interruptions : List Interruption) (op : Op) (s : Stage) :
    StepResult × Doings × Stage :=
  let quiet (r : StepResult) (s : Stage) : StepResult × Doings × Stage := (r, .nothing, s)
  let service := s.world.service
  let locks := s.world.host.inner.locks
  let index := s.world.host.inner.index
  match op with
  | .openSession kind =>
    let (id, world) := s.world.openSession kind
    quiet (.opened id kind) { s with world }
  | .closeSession id =>
    match s.perform patience interruptions patience.call (Abort.ofSession id) .nothing with
    | (some (), doings, s) => (.nothing, doings, s.mapWorld (·.forget id))
    | (none, doings, s) => (.stuck, doings, s)
  | .call call =>
    match s.perform patience interruptions patience.call call .nothing with
    | (some reply, doings, s) => (.reply reply, doings, s)
    | (none, doings, s) => (.stuck, doings, s)
  | .spawn call => let (n, s) := s.spawn call; quiet (.spawned n) s
  | .raise signal => quiet .nothing (s.mapWorld (·.raise signal))
  | .survey views =>
    match s.perform patience interruptions patience.call (Survey.ofViews views) .nothing with
    | (some tables, doings, s) => (.tables tables, doings, s)
    | (none, doings, s) => (.stuck, doings, s)
  | .dependencies v =>
    let (doings, s) := s.interrupt interruptions (some (.dependencies v)) .nothing
    (.tables (s.world.host.inner.index.dependencies v),
      { doings with contacts := [.dependencies v] }, s)
  | .register key affected transaction =>
    let (r, service) := service.register key affected transaction
    quiet (.registered r) (s.setService service)
  | .complete key =>
    let (r, service) := service.complete key
    quiet (.record r) (s.setService service)
  | .pass => let (n, service) := service.pass; quiet (.number n) (s.setService service)
  | .status key => quiet (.status (service.status? key)) s
  | .giveUp key => quiet .nothing (s.setService (service.giveUp key))
  | .markRunning key =>
    let (r, service) := service.markRunning key
    quiet (.marked r) (s.setService service)
  | .sweep id => let (n, service) := service.sweep id; quiet (.number n) (s.setService service)
  | .shutDown => quiet (.flag true) (s.setService service.shutDown)
  | .lock id t => let (b, locks) := locks.attempt id t; quiet (.flag b) (s.setLocks locks)
  | .unlock id t => quiet .nothing (s.setLocks (locks.unlock id t))
  | .held id t => quiet (.flag (locks.held id t)) s
  | .owner t => quiet (.owner (locks.owner t)) s
  | .locksHeld id => quiet (.tables (locks.locksHeld id)) s
  | .view v tables => quiet .nothing (s.setIndex (index.register v tables))
  | .unview v =>
    let (tables, index) := index.remove v
    quiet (.forgotten tables) (s.setIndex index)

/-- A step is over: settle, and put its answer together. -/
def conclude (hasHooks : Bool) : StepResult × Doings × Stage → Answer × Stage
  | (result, doings, s) =>
    let (landed, s) := (s.settle patience).report
    (.mk result (if hasHooks then some doings.hooked else none) doings.contacts.reverse landed
      s.world, s)

mutual

/-- Carry out a step. -/
def runStep : Step → Stage → Answer × Stage
  | .op op hooks, s => conclude patience hooks.isSome (runOp patience (hooked? hooks) op s)
  | .execute id query body outcome hooks, s =>
    let interruptions := hooked? hooks
    conclude patience hooks.isSome <|
      match s.perform patience interruptions patience.call (Start.ofQuery id query) .nothing with
      | (none, doings, s) => (.stuck, doings, s)
      | (some (.error r), doings, s) => (.bracket none (.refused r), doings, s)
      | (some (.ok key), doings, s) =>
        let (answers, s) := runSteps body (s.mapWorld (·.update id Session.enter))
        let s := s.mapWorld (·.update id Session.leave)
        let result := .bracket (some answers) (.body outcome)
        match key with
        | none => (result, doings, s)
        | some key =>
          match s.perform patience interruptions patience.call (Finish.ofKey id key) doings with
          | (some (), doings, s) => (result, doings, s)
          | (none, doings, s) => (.stuck, doings, s)
  | .utility id body outcome hooks, s =>
    let before := s.world.inUtility id
    let s := s.mapWorld (·.update id (·.setUtility true))
    let (answers, s) := runSteps body s
    let s := s.mapWorld (·.update id (·.setUtility before))
    conclude patience hooks.isSome (.bracket (some answers) (.body outcome), .nothing, s)

/-- Carry out steps one after the other. -/
def runSteps : List Step → Stage → List Answer × Stage
  | [], s => ([], s)
  | step :: steps, s =>
    let (answer, s) := runStep step s
    let (answers, s) := runSteps steps s
    (answer :: answers, s)

/-- Hooks, with their steps ready to run. -/
def hooked : List Hook → List Interruption
  | [] => []
  | .mk site nth steps :: hooks => ⟨site, nth, runSteps steps⟩ :: hooked hooks

/-- The hooks of a step, with their steps ready to run. -/
def hooked? : Option (List Hook) → List Interruption
  | none => []
  | some hooks => hooked hooks

end

/-- Set the scheduler up, unless its settings are refused, and take the steps. -/
def run (c : Scenario) : Except Refusal (List Answer) :=
  match Service.build c.settings with
  | .error r => .error r
  | .ok service =>
    let host : MemoryHost := ⟨.ofList c.views, .empty⟩
    .ok (runSteps patience c.steps (.ofWorld (.ofService service (.fresh host)))).1

end Scenario

end QueryAdmission
