import QueryAdmission.Call.Abort
import QueryAdmission.Call.Finish
import QueryAdmission.Call.Start

/-!
# All calls

The calls that take more than one section, as one type, so that calls of any kind can be in
progress side by side.
-/

namespace QueryAdmission

/-- A call in progress, of any kind. -/
inductive Call where
  | start (call : Start)
  | finish (call : Finish)
  | abort (call : Abort)
  | wait (call : Wait)
  | admission (call : Admission)
  deriving DecidableEq, Repr

/-- The result of a call that was not refused. -/
inductive Reply where
  /-- A start ended; with the key, if the query is scheduled. -/
  | started (key : Option QueryKey)
  /-- An end or an abort has been dealt with. -/
  | settled
  /-- A wait ended after so many sleeps. -/
  | granted (polls : Nat)
  /-- An admission ended and took these tables. -/
  | locked (tables : List TableId)
  deriving DecidableEq, Repr

namespace Call

/-- A step of one kind of call, as a step of a call of any kind. -/
def embed {σ γ ρ : Type} (around : γ → Call) (reply : ρ → Except Refusal Reply) :
    World σ × Progress γ ρ → World σ × Progress Call (Except Refusal Reply)
  | (world, .next c) => (world, .next (around c))
  | (world, .sleep c) => (world, .sleep (around c))
  | (world, .done r) => (world, .done (reply r))

/-- Carry out the next section of a call. -/
def advance {σ : Type} [Catalogue σ] [Locking σ] (world : World σ) :
    Call → World σ × Progress Call (Except Refusal Reply)
  | start c => embed start (·.map .started) (c.advance world)
  | finish c => embed finish (fun _ => .ok .settled) (c.advance world)
  | abort c => embed abort (fun _ => .ok .settled) (c.advance world)
  | wait c => embed wait (·.map .granted) (c.advance world)
  | admission c => embed admission (·.map .locked) (c.advance world)

/-- The contact that is made next. -/
def upcoming : Call → Option Site
  | start c => c.upcoming
  | admission c => c.upcoming
  | finish _ | abort _ | wait _ => none

instance : Stepping Call (Except Refusal Reply) where
  step := advance
  upcoming := upcoming

/-- Whether the call has a record that waits, and its signal is not raised. -/
def isQueued {σ : Type} (world : World σ) : Call → Bool
  | start c =>
    world.service.records.any (fun r => r.session = c.session && r.status = .waiting)
      && !world.signals.isRaised (.session c.session)
  | wait c =>
    world.service.status? c.key = some .waiting && !world.signals.isRaised c.signal
  | admission c =>
    world.service.status? c.key = some .waiting && !world.signals.isRaised c.signal
  | finish _ | abort _ => false

end Call

end QueryAdmission
