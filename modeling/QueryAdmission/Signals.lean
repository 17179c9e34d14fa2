/-!
# Signals

A signal is raised to call a waiting query off. Whoever knows a signal's name sees the same flag.
-/

namespace QueryAdmission

/-- The signals that are raised, by name. -/
structure Signals (ν : Type) where
  raised : List ν
  deriving DecidableEq, Repr

namespace Signals

variable {ν : Type} [DecidableEq ν]

/-- No signal is raised. -/
def quiet : Signals ν := ⟨[]⟩

/-- Whether the signal is raised. -/
def isRaised (s : Signals ν) (name : ν) : Bool := name ∈ s.raised

/-- Raise a signal. -/
def raise (s : Signals ν) (name : ν) : Signals ν :=
  if s.isRaised name then s else ⟨name :: s.raised⟩

/-- Take a signal down. -/
def lower (s : Signals ν) (name : ν) : Signals ν := ⟨s.raised.filter (· ≠ name)⟩

@[simp] theorem isRaised_quiet (name : ν) : (quiet : Signals ν).isRaised name = false := by
  simp [quiet, isRaised]

@[simp] theorem isRaised_raise (s : Signals ν) (a b : ν) :
    (s.raise a).isRaised b = (decide (b = a) || s.isRaised b) := by
  unfold raise
  split
  · next h => by_cases hb : b = a <;> simp_all
  · simp [isRaised]

@[simp] theorem isRaised_lower (s : Signals ν) (a b : ν) :
    (s.lower a).isRaised b = (decide (b ≠ a) && s.isRaised b) := by
  by_cases h : b = a <;> simp [lower, isRaised, h]

end Signals

/-- Handles on signals, in the order in which they were made. A copied handle is another name for
the signal of the handle it was copied from. -/
structure Handles where
  signals : Signals Nat
  /-- The signal of each handle. -/
  names : List Nat
  /-- How many signals were made so far. -/
  made : Nat
  deriving DecidableEq, Repr

namespace Handles

/-- No handle at all. -/
def empty : Handles := ⟨.quiet, [], 0⟩

/-- Make a signal, and a handle on it. -/
def add (h : Handles) : Handles := { h with names := h.names ++ [h.made], made := h.made + 1 }

/-- Copy the handle at that place. -/
def copy (h : Handles) (i : Nat) : Handles :=
  match h.names[i]? with
  | some name => { h with names := h.names ++ [name] }
  | none => h

/-- Raise the signal of the handle at that place. -/
def raise (h : Handles) (i : Nat) : Handles :=
  match h.names[i]? with
  | some name => { h with signals := h.signals.raise name }
  | none => h

/-- Drop the handle that was made last. -/
def dropLast (h : Handles) : Handles := { h with names := h.names.dropLast }

/-- For each handle, whether its signal is raised. -/
def view (h : Handles) : List Bool := h.names.map h.signals.isRaised

end Handles

end QueryAdmission
