import QueryAdmission.Call.Progress

/-!
# Surveying the tables of views

The host is asked for the tables of one view after the other, also for a view that it was asked
for before. What comes together is the dependency set of the views.
-/

namespace QueryAdmission

/-- Which views are still to be asked for, and the tables so far. -/
structure Survey where
  left : List ViewId
  tables : List TableId
  deriving DecidableEq, Repr

namespace Survey

/-- A survey of these views. -/
def ofViews (views : List ViewId) : Survey := ⟨views, []⟩

/-- Ask for the next view. -/
def ask {σ : Type} [Catalogue σ] (host : σ) (s : Survey) : σ × Survey :=
  match s.left with
  | [] => (host, s)
  | v :: vs =>
    let (tables, host) := Catalogue.dependencies host v
    (host, ⟨vs, addTables s.tables tables⟩)

/-- The view that is asked for next. -/
def upcoming (s : Survey) : Option Site := s.left.head?.map .dependencies

instance : Stepping Survey (List TableId) where
  step w s := match s.left with
    | [] => (w, .done s.tables)
    | _ :: _ => let (host, s) := s.ask w.host; ({ w with host }, .next s)
  upcoming := upcoming

end Survey

end QueryAdmission
