import QueryAdmission.Schedule
import QueryAdmission.Settings
import QueryAdmission.Tally

/-!
# The scheduler

The scheduler's own state, and the operations on it. Each operation is one atomic section: whoever
calls it sees the state before and after, and nothing between. Every operation that frees a slot or
adds a record ends with an admission pass, so that no free slot is left while a query waits. As in
the schedule, no debug assertion is part of an operation: that the number of slots in use is the
number of the records that hold one is not asserted, and the warning that it is above the number of
slots is left out with it.
-/

namespace QueryAdmission

/-- The scheduler's own state. -/
structure Service where
  settings : Settings
  schedule : Schedule
  tally : Tally
  /-- How many sessions were opened so far. The program counts in a 64-bit word: fewer than 2^64
  sessions are assumed. -/
  opened : Nat
  isShut : Bool
  deriving DecidableEq, Repr

/-- What a waiting query sees when it looks for its record. -/
inductive Sight where
  /-- There is no record. -/
  | gone
  /-- The record holds a slot. -/
  | granted
  /-- The record waits for a slot. -/
  | queued
  deriving DecidableEq, Repr

/-- Why a waiting query leaves by itself. -/
inductive Departure where
  | shutDown | cancelled
  deriving DecidableEq, Repr

/-- The refusal with which a query leaves. -/
def Departure.refusal (key : QueryKey) : Departure → Refusal
  | shutDown => .shutDown
  | cancelled => .cancelled key

namespace Service

/-- A scheduler with these settings, which are not checked. -/
def ofSettings (settings : Settings) : Service where
  settings
  schedule := .empty settings.maxQueries.toNat settings.maxAffected.toNat
  tally := .zero
  opened := 0
  isShut := false

/-- A scheduler with these settings, if they are in order. -/
def build (settings : Settings) : Except Refusal Service :=
  match settings.check with
  | .ok () => .ok (ofSettings settings)
  | .error r => .error r

/-- The queries in flight, in the order of arrival. -/
def records (s : Service) : List Record := s.schedule.roster.records

/-- How many slots are in use. -/
def running (s : Service) : Nat := s.schedule.running

/-- How many slots there are. -/
def slots (s : Service) : Nat := s.settings.maxConcurrent.toNat

/-- The record of a key. -/
def find? (s : Service) (key : QueryKey) : Option Record := s.schedule.roster.find? key

/-- The status of a key. -/
def status? (s : Service) (key : QueryKey) : Option Status := s.schedule.roster.status? key

/-- Change the tally. -/
def count (s : Service) (f : Tally → Tally) : Service := { s with tally := f s.tally }

/-- Run an admission pass. Gives how many records were given a slot. -/
def pass (s : Service) : Nat × Service :=
  let (n, schedule) := s.schedule.pass s.slots
  (n, { s with schedule, tally := { s.tally with admitted := s.tally.admitted + n } })

/-- Open a session: its number is the next one. -/
def openSession (s : Service) : SessionId × Service :=
  (⟨s.opened + 1⟩, { s with opened := s.opened + 1 })

/-- Give a query a record, and run a pass. Gives the record as it is after the pass. -/
def register (s : Service) (key : QueryKey) (affected : List ViewId) (transaction : TransactionId) :
    Except Refusal Record × Service :=
  if s.isShut then (.error .shutDown, s)
  else match s.schedule.roster.register key affected transaction with
    | .error r => (.error r, s.count fun t => { t with rejected := t.rejected + 1 })
    | .ok (record, roster) =>
      let s' := { s with schedule := { s.schedule with roster } }
      let s' := (s'.count fun t => { t with registered := t.registered + 1 }).pass.2
      (.ok ((s'.find? key).getD record), s')

/-- Take a query's record off the roster, free its slot, and run a pass. -/
def withdraw (s : Service) (key : QueryKey) : Option Record × Service :=
  match s.schedule.roster.remove key with
  | (none, _) => (none, s)
  | (some record, roster) =>
    (some record, ({ s with schedule := { s.schedule with roster }.release record }).pass.2)

/-- A query is over: its record leaves. -/
def complete (s : Service) (key : QueryKey) : Option Record × Service :=
  match s.withdraw key with
  | (none, s) => (none, s)
  | (some record, s) => (some record, s.count fun t => { t with completed := t.completed + 1 })

/-- A waiting query looks for its record. If no slot is in use and it has not been given one, it
forces a pass first: nobody else would wake it. -/
def look (s : Service) (key : QueryKey) : Sight × Service :=
  match s.status? key with
  | none => (.gone, s)
  | some status =>
    if s.running = 0 ∧ status ≠ .available then
      let s' := (s.count fun t => { t with selfHeals := t.selfHeals + 1 }).pass.2
      (if ((s'.status? key).getD status).holdsSlot then .granted else .queued, s')
    else (if status.holdsSlot then .granted else .queued, s)

/-- A waiting query leaves by itself. -/
def depart (s : Service) (key : QueryKey) : Departure → Service
  | .shutDown => (s.withdraw key).2
  | .cancelled => (s.withdraw key).2.count fun t => { t with cancelled := t.cancelled + 1 }

/-- A query gives its slot up, and a pass hands it to others. -/
def giveUp (s : Service) (key : QueryKey) : Service :=
  match s.find? key with
  | none => s
  | some record =>
    let schedule := (s.schedule.release record).setStatus key .gaveUp
    (({ s with schedule }).count fun t => { t with retreats := t.retreats + 1 }).pass.2

/-- A query with all its locks begins to run, unless its record is gone. -/
def markRunning (s : Service) (key : QueryKey) : Except Refusal Unit × Service :=
  match s.status? key with
  | none => (.error (.aborted key), s)
  | some _ => (.ok (), { s with schedule := s.schedule.setStatus key .running })

/-- A session's transaction was aborted: all its records leave. Gives how many there were. -/
def sweep (s : Service) (session : SessionId) : Nat × Service :=
  match s.schedule.roster.removeSession session with
  | ([], _) => (0, s)
  | (removed, roster) =>
    let schedule := removed.foldl Schedule.release { s.schedule with roster }
    let s' := ({ s with schedule }).count fun t => { t with swept := t.swept + removed.length }
    (removed.length, s'.pass.2)

/-- Take no more queries, and send those that wait away. -/
def shutDown (s : Service) : Service := { s with isShut := true }

end Service

end QueryAdmission
