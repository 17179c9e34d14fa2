import QueryAdmission.Ident
import QueryAdmission.Lookup

/-!
# Views and the tables they depend on

A query that affects views needs every table that one of them depends on, each once, in the order
in which the views' lists first mention it. The index in memory keeps the tables that were last
given for each view.
-/

namespace QueryAdmission

/-- Add a table at the end, unless it is there. -/
def addTable (tables : List TableId) (t : TableId) : List TableId :=
  if t ∈ tables then tables else tables ++ [t]

/-- Add tables at the end, in order, each unless it is there. -/
def addTables (tables more : List TableId) : List TableId := more.foldl addTable tables

/-- The tables that some view depends on, each once, in the order of first mention. -/
def dependencySet (dependencies : ViewId → List TableId) (views : List ViewId) : List TableId :=
  views.foldl (fun tables v => addTables tables (dependencies v)) []

@[simp] theorem mem_addTable {tables : List TableId} {t u : TableId} :
    u ∈ addTable tables t ↔ u ∈ tables ∨ u = t := by
  unfold addTable
  split
  · constructor
    · exact .inl
    · rintro (h | rfl) <;> assumption
  · simp

theorem mem_addTables {tables more : List TableId} {u : TableId} :
    u ∈ addTables tables more ↔ u ∈ tables ∨ u ∈ more := by
  induction more generalizing tables with
  | nil => simp [addTables]
  | cons t more ih =>
    have h : addTables tables (t :: more) = addTables (addTable tables t) more := rfl
    rw [h, ih, mem_addTable, List.mem_cons, or_assoc]

theorem nodup_addTable {tables : List TableId} (h : tables.Nodup) (t : TableId) :
    (addTable tables t).Nodup := by
  unfold addTable
  split
  · exact h
  · rw [List.nodup_append]
    exact ⟨h, by simp, by rintro a ha b hb rfl; simp_all⟩

theorem nodup_addTables {tables : List TableId} (h : tables.Nodup) (more : List TableId) :
    (addTables tables more).Nodup := by
  induction more generalizing tables with
  | nil => exact h
  | cons t more ih => exact ih (nodup_addTable h t)

/-- The tables that each view depends on. -/
structure ViewIndex where
  views : List (ViewId × List TableId)
  deriving DecidableEq, Repr

namespace ViewIndex

/-- An index that knows no view. -/
def empty : ViewIndex := ⟨[]⟩

/-- The tables of a view; a view that is not known depends on none. -/
def dependencies (x : ViewIndex) (v : ViewId) : List TableId := (x.views.lookup v).getD []

/-- Say which tables a view depends on; what was said before no longer counts. -/
def register (x : ViewIndex) (v : ViewId) (tables : List TableId) : ViewIndex :=
  ⟨(v, tables) :: x.views.filter (·.1 ≠ v)⟩

/-- Forget a view. Gives what it depended on, if it was known. -/
def remove (x : ViewIndex) (v : ViewId) : Option (List TableId) × ViewIndex :=
  (x.views.lookup v, ⟨x.views.filter (·.1 ≠ v)⟩)

/-- How many views are known. -/
def size (x : ViewIndex) : Nat := x.views.length

/-- Whether no view is known. -/
def isEmpty (x : ViewIndex) : Bool := x.views.isEmpty

/-- The index that knows these views; of two lists for one view, the later counts. -/
def ofList (views : List (ViewId × List TableId)) : ViewIndex :=
  views.foldl (fun x v => x.register v.1 v.2) empty

@[simp] theorem dependencies_register (x : ViewIndex) (v w : ViewId) (tables : List TableId) :
    (x.register v tables).dependencies w = if w = v then tables else x.dependencies w := by
  simp only [dependencies, register, lookup_cons_eq_ite, lookup_filter_ne]
  split <;> rfl

@[simp] theorem dependencies_remove (x : ViewIndex) (v w : ViewId) :
    (x.remove v).2.dependencies w = if w = v then [] else x.dependencies w := by
  simp only [dependencies, remove, lookup_filter_ne]
  split <;> rfl

theorem dependencies_foldl_register (views : List (ViewId × List TableId)) (x : ViewIndex) {v : ViewId}
    (h : v ∉ views.map Prod.fst) :
    (views.foldl (fun x v => x.register v.1 v.2) x).dependencies v = x.dependencies v := by
  induction views generalizing x with
  | nil => rfl
  | cons e views ih =>
    rw [List.map_cons, List.mem_cons, not_or] at h
    rw [List.foldl_cons, ih _ h.2, dependencies_register, if_neg h.1]

/-- Of views that are all different, each depends on the tables that are given for it. -/
theorem dependencies_ofList {views : List (ViewId × List TableId)} (hn : (views.map Prod.fst).Nodup)
    {v : ViewId} {tables : List TableId} (h : (v, tables) ∈ views) :
    (ofList views).dependencies v = tables := by
  rw [ofList]
  generalize empty = x
  induction views generalizing x with
  | nil => cases h
  | cons e views ih =>
    rw [List.map_cons, List.nodup_cons] at hn
    rw [List.foldl_cons]
    rcases List.mem_cons.1 h with rfl | h
    · rw [dependencies_foldl_register _ _ hn.1, dependencies_register, if_pos rfl]
    · exact ih hn.2 h _

end ViewIndex

end QueryAdmission
