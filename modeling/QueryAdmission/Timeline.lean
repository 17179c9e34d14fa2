import QueryAdmission.Ident
import QueryAdmission.Lookup

/-!
# Timelines

A timeline watches executions that may overlap. It notes every table that an execution enters while
another one is on it, how many executions were open at once, and in which order they began.
-/

namespace QueryAdmission

/-- One execution entered a table on which another one was running. -/
structure Violation where
  table : TableId
  running : String
  entering : String
  deriving DecidableEq, Repr

/-- What was seen of executions so far. -/
structure Timeline where
  /-- For each table that an execution is on, the label of the one that entered it last. -/
  active : List (TableId × String)
  concurrent : Nat
  maxConcurrent : Nat
  /-- The labels in the order in which their executions began. -/
  started : List String
  violations : List Violation
  deriving DecidableEq, Repr

namespace Timeline

/-- Nothing was seen yet. -/
def empty : Timeline := ⟨[], 0, 0, [], []⟩

/-- The label of the execution that a table counts as its own. -/
def occupant (t : Timeline) (table : TableId) : Option String := t.active.lookup table

/-- The tables that are occupied already, in order, with who is there and who comes. -/
def conflicts (t : Timeline) (label : String) (tables : List TableId) : List Violation :=
  tables.filterMap fun table => (t.occupant table).map fun running => ⟨table, running, label⟩

/-- A table changes to another occupant. -/
def occupy (label : String) (active : List (TableId × String)) (table : TableId) :
    List (TableId × String) :=
  (table, label) :: active.filter (·.1 ≠ table)

/-- A table is left by its occupant; nothing changes if it has another one by now. -/
def vacate (label : String) (active : List (TableId × String)) (table : TableId) :
    List (TableId × String) :=
  if active.lookup table = some label then active.filter (·.1 ≠ table) else active

/-- An execution begins on these tables. -/
def enter (t : Timeline) (label : String) (tables : List TableId) : Timeline where
  active := tables.foldl (occupy label) t.active
  concurrent := t.concurrent + 1
  maxConcurrent := max t.maxConcurrent (t.concurrent + 1)
  started := t.started ++ [label]
  violations := t.violations ++ t.conflicts label tables

/-- An execution on these tables ends. -/
def exit (t : Timeline) (label : String) (tables : List TableId) : Timeline :=
  { t with active := tables.foldl (vacate label) t.active, concurrent := t.concurrent - 1 }

/-- Whether no two executions were seen on one table. -/
def isExclusive (t : Timeline) : Bool := t.violations.isEmpty

theorem lookup_occupy (label : String) (active : List (TableId × String)) (t u : TableId) :
    (occupy label active t).lookup u = if u = t then some label else active.lookup u := by
  simp only [occupy, lookup_cons_eq_ite, lookup_filter_ne]
  split <;> rfl

theorem lookup_vacate (label : String) (active : List (TableId × String)) (t u : TableId) :
    (vacate label active t).lookup u
      = if u = t ∧ active.lookup t = some label then none else active.lookup u := by
  unfold vacate
  split
  · next h => simp only [lookup_filter_ne, h, and_true]
  · next h => simp [h]

end Timeline

/-- An execution that is open. -/
structure OpenRun where
  number : Nat
  label : String
  tables : List TableId
  deriving DecidableEq, Repr

/-- A timeline, with the executions that are open, the oldest first. -/
structure WatchedRuns where
  timeline : Timeline
  runs : List OpenRun
  deriving DecidableEq, Repr

namespace WatchedRuns

/-- No execution was seen yet. -/
def empty : WatchedRuns := ⟨.empty, []⟩

/-- An execution begins. -/
def enter (w : WatchedRuns) (r : OpenRun) : WatchedRuns :=
  ⟨w.timeline.enter r.label r.tables, w.runs ++ [r]⟩

/-- The execution of that number ends, if one is open: the oldest one, if there are several. -/
def exit (w : WatchedRuns) (number : Nat) : WatchedRuns :=
  match w.runs.find? (·.number = number) with
  | some r => ⟨w.timeline.exit r.label r.tables, w.runs.eraseP (·.number = number)⟩
  | none => w

end WatchedRuns

end QueryAdmission
