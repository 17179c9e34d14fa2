import QueryAdmission.Call
import QueryAdmission.Timeline

/-!
# Workloads

Workers execute queries side by side on one scheduler. Each has a session of its own and executes
so many queries, one after the other; a timeline watches what runs at the same time. The workers
proceed section by section, in whatever order they are scheduled.
-/

namespace QueryAdmission

/-- What the workers do. -/
structure Workload where
  settings : Settings
  /-- How many queries each worker executes. -/
  rounds : Nat
  workers : Nat
  views : List (ViewId × List TableId)
  deriving DecidableEq, Repr

/-- The query of one worker in one round. -/
structure Errand where
  label : String
  view : ViewId
  tables : List TableId
  deriving DecidableEq, Repr

/-- Where a worker stands. -/
inductive Worker.Phase where
  /-- About to open a session. -/
  | opening
  /-- Between two queries: about to begin the query of that round. -/
  | ready (round : Nat)
  | starting (round : Nat) (errand : Errand) (call : Start)
  /-- About to go into the execution. -/
  | entering (round : Nat) (errand : Errand) (key : Option QueryKey)
  /-- In the execution; about to be seen on the timeline. -/
  | arriving (round : Nat) (errand : Errand) (key : Option QueryKey)
  /-- In the execution; about to disappear from the timeline. -/
  | departing (round : Nat) (errand : Errand) (key : Option QueryKey)
  /-- About to come out of the execution. -/
  | leaving (round : Nat) (key : Option QueryKey)
  | finishing (round : Nat) (call : Finish)
  /-- Closing the session, after success or not. -/
  | closing (succeeded : Bool) (call : Abort)
  | over (succeeded : Bool)
  deriving DecidableEq, Repr

/-- A worker. -/
structure Worker where
  number : Nat
  session : SessionId
  phase : Worker.Phase
  deriving DecidableEq, Repr

/-- The scheduler and the timeline that all workers share. -/
structure Floor where
  world : World MemoryHost
  timeline : Timeline
  deriving Repr

namespace Workload

variable (load : Workload)

/-- The query of a worker in a round: the views are taken in turn. -/
def errand? (worker round : Nat) : Option Errand :=
  (load.views[(worker + round) % load.views.length]?).map fun v =>
    ⟨"w" ++ worker.repr ++ " r" ++ round.repr, v.1, v.2⟩

/-- What a worker tells its session about the query of a round. Its transaction is the round's. -/
def query (round : Nat) (e : Errand) : Query := ⟨e.label, ⟨round⟩, [e.view], false, false⟩

/-- Carry out the next section of a worker. -/
def advance (floor : Floor) (w : Worker) : Floor × Progress Worker Bool :=
  let go (floor : Floor) (phase : Worker.Phase) : Floor × Progress Worker Bool :=
    (floor, .next { w with phase })
  match w.phase with
  | .opening =>
    let (session, world) := floor.world.openSession .backend
    ({ floor with world }, .next { w with session, phase := .ready 0 })
  | .ready round =>
    if round < load.rounds then
      match load.errand? w.number round with
      | some e => go floor (.starting round e (.ofQuery w.session (query round e)))
      | none => go floor (.closing false (.ofSession w.session))
    else go floor (.closing true (.ofSession w.session))
  | .starting round e call =>
    match call.advance floor.world with
    | (world, .next call) => go { floor with world } (.starting round e call)
    | (world, .sleep call) =>
      ({ floor with world }, .sleep { w with phase := .starting round e call })
    | (world, .done (.ok key)) => go { floor with world } (.entering round e key)
    | (world, .done (.error _)) => go { floor with world } (.closing false (.ofSession w.session))
  | .entering round e key =>
    go { floor with world := floor.world.update w.session Session.enter } (.arriving round e key)
  | .arriving round e key =>
    go { floor with timeline := floor.timeline.enter e.label e.tables } (.departing round e key)
  | .departing round e key =>
    go { floor with timeline := floor.timeline.exit e.label e.tables } (.leaving round key)
  | .leaving round key =>
    let floor := { floor with world := floor.world.update w.session Session.leave }
    match key with
    | some key => go floor (.finishing round (.ofKey w.session key))
    | none => go floor (.ready (round + 1))
  | .finishing round call =>
    match call.advance floor.world with
    | (world, .next call) => go { floor with world } (.finishing round call)
    | (world, .sleep call) =>
      ({ floor with world }, .sleep { w with phase := .finishing round call })
    | (world, .done ()) => go { floor with world } (.ready (round + 1))
  | .closing succeeded call =>
    match call.advance floor.world with
    | (world, .next call) => go { floor with world } (.closing succeeded call)
    | (world, .sleep call) =>
      ({ floor with world }, .sleep { w with phase := .closing succeeded call })
    | (world, .done ()) => ({ floor with world := world.forget w.session }, .done succeeded)
  | .over succeeded => (floor, .done succeeded)

/-- Carry out the next section of a worker, and leave the worker where it stands then. Also gives
whether the worker goes on without a sleep. -/
def step (floor : Floor) (w : Worker) : Bool × Floor × Worker :=
  match load.advance floor w with
  | (floor, .next w) => (true, floor, w)
  | (floor, .sleep w) => (false, floor, w)
  | (floor, .done succeeded) => (false, floor, { w with phase := .over succeeded })

/-- The workers before anything has happened. -/
def crew : List Worker := (List.range load.workers).map fun n => ⟨n, ⟨0⟩, .opening⟩

/-- The floor before anything has happened. -/
def floor (service : Service) : Floor :=
  ⟨.ofService service ⟨.ofList load.views, .empty⟩, .empty⟩

/-- Let a worker go on until it is over or sleeps, for at most `fuel` sections. -/
def runWorker : Nat → Floor → Worker → Floor × Worker
  | 0, floor, w => (floor, w)
  | fuel + 1, floor, w =>
    match load.step floor w with
    | (true, floor, w) => runWorker fuel floor w
    | (false, floor, w) => (floor, w)

/-- Let every worker go on until it is over or sleeps, in order. -/
def runShift (fuel : Nat) : Floor → List Worker → Floor × List Worker
  | floor, [] => (floor, [])
  | floor, w :: ws =>
    let (floor, w) := load.runWorker fuel floor w
    let (floor, ws) := runShift fuel floor ws
    (floor, w :: ws)

/-- Whether the worker is over. -/
def isOver (w : Worker) : Bool :=
  match w.phase with
  | .over _ => true
  | _ => false

/-- Whether the worker is over and has succeeded. -/
def hasSucceeded (w : Worker) : Bool := w.phase = .over true

/-- Repeat shifts until every worker is over, at most `shifts` of them. -/
def runShifts (fuel : Nat) : Nat → Floor → List Worker → Floor × List Worker
  | 0, floor, ws => (floor, ws)
  | shifts + 1, floor, ws =>
    if ws.all isOver then (floor, ws)
    else
      let (floor, ws) := load.runShift fuel floor ws
      runShifts fuel shifts floor ws

/-- What is left to see when the workers are over. -/
structure Report where
  succeeded : Nat
  floor : Floor
  deriving Repr

/-- Labels in the order of their characters. -/
def Report.started (r : Report) : List String :=
  r.floor.timeline.started.mergeSort fun a b => decide (a ≤ b)

/-- Whether never more executions were open than there are slots. -/
def Report.isWithinCap (r : Report) : Bool :=
  r.floor.timeline.maxConcurrent ≤ r.floor.world.service.slots

/-- Let the workers run to their end, unless the settings are refused. -/
def run (patience : Nat) : Except Refusal Report :=
  match Service.build load.settings with
  | .error r => .error r
  | .ok service =>
    let (floor, ws) := load.runShifts patience patience (load.floor service) load.crew
    .ok ⟨ws.countP hasSucceeded, floor⟩

end Workload

end QueryAdmission
