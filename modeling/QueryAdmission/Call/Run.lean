import QueryAdmission.Call

/-!
# Calls in the background

Several calls are in progress at once. A round lets each of them run in turn until it is over or
sleeps. Calls count as parked when some slot is in use, every call has a record that waits for one,
and nothing sends it away.
-/

namespace QueryAdmission

variable {σ : Type} [Catalogue σ] [Locking σ]

/-- Let a call run until it is over or sleeps, for at most `fuel` sections. -/
def runUntilAsleep {γ ρ : Type} [Stepping γ ρ] : Nat → World σ → γ → World σ × (γ ⊕ ρ)
  | 0, world, call => (world, .inl call)
  | fuel + 1, world, call =>
    match Stepping.step world call with
    | (world, .next call) => runUntilAsleep fuel world call
    | (world, .sleep call) => (world, .inl call)
    | (world, .done result) => (world, .inr result)

/-- A call in the background, by number. -/
structure InFlight where
  number : Nat
  call : Call
  deriving DecidableEq, Repr

/-- A call that was in the background, and its result. -/
structure Landed where
  number : Nat
  result : Except Refusal Reply
  deriving Repr

/-- Let each of the calls run until it is over or sleeps. -/
def runRound (fuel : Nat) : World σ → List InFlight → World σ × List InFlight × List Landed
  | world, [] => (world, [], [])
  | world, f :: fs =>
    match runUntilAsleep fuel world f.call with
    | (world, .inl call) =>
      let (world, flying, landed) := runRound fuel world fs
      (world, ⟨f.number, call⟩ :: flying, landed)
    | (world, .inr result) =>
      let (world, flying, landed) := runRound fuel world fs
      (world, flying, ⟨f.number, result⟩ :: landed)

/-- Whether a slot is in use, no call is sent away, and every call is queued. -/
def allParked (world : World σ) (flying : List InFlight) : Bool :=
  world.service.records.any Record.holdsSlot && !world.service.isShut
    && flying.all fun f => f.call.isQueued world

end QueryAdmission
