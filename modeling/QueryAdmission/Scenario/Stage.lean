import QueryAdmission.Scenario.Answer

/-!
# The stage of a scenario

The world in which the steps of a scenario act, with the calls in the background. Background calls
run only while a step settles, and they take a turn whenever a call in the foreground sleeps; that
call runs without being interrupted otherwise, except by the steps that are hooked into it.
-/

namespace QueryAdmission

/-- The world, and the calls in the background. -/
structure Stage where
  world : World (Recorded MemoryHost)
  /-- Calls that sleep. -/
  flying : List InFlight
  /-- Calls that have not set out yet. -/
  fresh : List InFlight
  /-- Calls that have ended and were not yet reported. -/
  landed : List Landed
  /-- How many background calls were begun so far. -/
  spawned : Nat

/-- Steps that wait for a contact: they run on the stage right before the `nth` one at a site. -/
structure Interruption where
  site : Site
  nth : Nat
  run : Stage → List Answer × Stage

/-- How long a stage goes on with calls that do not come to an end by themselves. -/
structure Patience where
  /-- How many sections a call in the foreground may take. -/
  call : Nat
  /-- How many sections a call in the background may take in one round. -/
  turn : Nat
  deriving DecidableEq, Repr

/-- What a step has done itself. -/
structure Doings where
  /-- How often it came to each site. -/
  visits : List (Site × Nat)
  /-- The contacts it made, the last one first. -/
  contacts : List Contact
  /-- The answers of the steps that were hooked into it. -/
  hooked : List (List Answer)

namespace Doings

/-- Nothing was done yet. -/
def nothing : Doings := ⟨[], [], []⟩

/-- How often the step came to the site. -/
def visitsTo (d : Doings) (site : Site) : Nat := (d.visits.lookup site).getD 0

/-- The step comes to a site. -/
def visit (d : Doings) (site : Site) : Doings :=
  { d with visits := (site, d.visitsTo site + 1) :: d.visits.filter (·.1 ≠ site) }

@[simp] theorem visitsTo_nothing (site : Site) : nothing.visitsTo site = 0 := rfl

/-- A visit counts for its own site alone. -/
theorem visitsTo_visit (d : Doings) (a b : Site) :
    (d.visit a).visitsTo b = d.visitsTo b + if b = a then 1 else 0 := by
  unfold visitsTo visit
  rw [lookup_cons_eq_ite, lookup_filter_ne]
  by_cases h : b = a
  · subst h; simp [visitsTo]
  · simp [h]

end Doings

namespace Stage

/-- A stage on which nothing has happened. -/
def ofWorld (world : World (Recorded MemoryHost)) : Stage := ⟨world, [], [], [], 0⟩

/-- Change the world. -/
def mapWorld (s : Stage) (f : World (Recorded MemoryHost) → World (Recorded MemoryHost)) : Stage :=
  { s with world := f s.world }

/-- Change the scheduler. -/
def setService (s : Stage) (service : Service) : Stage := s.mapWorld ({ · with service })

/-- Change the lock table, unnoticed. -/
def setLocks (s : Stage) (locks : LockTable) : Stage :=
  s.mapWorld fun w => { w with host := { w.host with inner := { w.host.inner with locks } } }

/-- Change the index of views, unnoticed. -/
def setIndex (s : Stage) (index : ViewIndex) : Stage :=
  s.mapWorld fun w => { w with host := { w.host with inner := { w.host.inner with index } } }

/-- Begin a call in the background. -/
def spawn (s : Stage) (call : Call) : Nat × Stage :=
  (s.spawned + 1,
    { s with fresh := s.fresh ++ [⟨s.spawned + 1, call⟩], spawned := s.spawned + 1 })

/-- All calls in the background. -/
def calls (s : Stage) : List InFlight := s.flying ++ s.fresh

/-- Whether there is nothing to wait for: no call is left in the background, or all are parked. -/
def isSettled (s : Stage) : Bool := s.calls.isEmpty || allParked s.world s.calls

/-- Let every background call run until it is over or sleeps. A call that has not set out yet does
so first, because the others are still asleep then. -/
def turn (patience : Patience) (s : Stage) : Stage :=
  let (world, begun, landed) := runRound patience.turn s.world s.fresh
  let (world, flying, landed') := runRound patience.turn world s.flying
  { s with
    world, flying := flying ++ begun, fresh := [], landed := s.landed ++ landed ++ landed' }

/-- Repeat turns, at most `turns` of them, until there is nothing to wait for. -/
def settleWithin (patience : Patience) : Nat → Stage → Stage
  | 0, s => s
  | turns + 1, s => if s.isSettled then s else settleWithin patience turns (s.turn patience)

/-- Let the background calls run until all that are left are parked. Every call may be woken again
by every other one, and for that there are turns enough. -/
def settle (patience : Patience) (s : Stage) : Stage :=
  s.settleWithin patience ((s.calls.length + 1) * (s.calls.length + 2))

/-- Take the calls that have ended, by number. -/
def report (s : Stage) : List Landed × Stage :=
  (s.landed.mergeSort fun a b => a.number ≤ b.number, { s with landed := [] })

/-- Before a contact is made: run the steps that wait for it. -/
def interrupt (interruptions : List Interruption) (site : Option Site) (doings : Doings)
    (s : Stage) : Doings × Stage :=
  match site with
  | .none => (doings, s)
  | some site =>
    let doings := doings.visit site
    let nth := doings.visitsTo site
    (interruptions.filter fun i => i.site = site && i.nth = nth).foldl
      (fun (doings, s) i =>
        let (answers, s) := i.run s
        ({ doings with hooked := doings.hooked ++ [answers] }, s))
      (doings, s)

/-- Carry out the next section of a call in the foreground, and note the contacts it makes. -/
def advance {γ ρ : Type} [Stepping γ ρ] (call : γ) (doings : Doings) (s : Stage) :
    Progress γ ρ × Doings × Stage :=
  let (world, progress) :=
    Stepping.step { s.world with host := { s.world.host with contacts := [] } } call
  (progress, { doings with contacts := world.host.contacts.reverse ++ doings.contacts },
    { s with world })

/-- Make a call in the foreground and wait for its result, for at most `fuel` sections. All calls
sleep equally long; so whenever this one sleeps, every background call takes its turn. -/
def perform {γ ρ : Type} [Stepping γ ρ] (patience : Patience) (interruptions : List Interruption) :
    Nat → γ → Doings → Stage → Option ρ × Doings × Stage
  | 0, _, doings, s => (.none, doings, s)
  | fuel + 1, call, doings, s =>
    let (doings, s) := s.interrupt interruptions (Stepping.upcoming call) doings
    match s.advance call doings with
    | (.next call, doings, s) => perform patience interruptions fuel call doings s
    | (.sleep call, doings, s) =>
      perform patience interruptions fuel call doings (s.turn patience)
    | (.done result, doings, s) => (some result, doings, s)

end Stage

end QueryAdmission
