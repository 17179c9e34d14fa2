import Mathlib.Data.List.Basic
import Mathlib.Data.List.Induction
import QueryAdmission.Call.Run
import QueryAdmission.Call.Survey

/-!
# Tables in the order of first mention

What a query locks is put together from lists, one for each view, that may overlap and repeat
themselves. The result has each table once, where the lists first mention it (`FirstMentions`), and
views that come later add their new tables at the end (`dependencySet_append`). The lists may come
from any index, from the index in memory after whatever was said to it (`ViewIndex.standing`), or one
by one from a host that is asked (`Survey.answers`).
-/

namespace QueryAdmission

/-- Tables that are those of some lists, in the order of first mention. -/
structure FirstMentions (lists : List (List TableId)) (tables : List TableId) : Prop where
  nodup : tables.Nodup
  mem_iff : ∀ t, t ∈ tables ↔ ∃ list ∈ lists, t ∈ list
  /-- What is mentioned first in the lists, one after the other, comes first. -/
  ordered : tables.Pairwise fun t u => lists.flatten.idxOf t < lists.flatten.idxOf u

/-! ### Adding tables -/

lemma addTables_concat (tables more : List TableId) (t : TableId) :
    addTables tables (more ++ [t]) = addTable (addTables tables more) t :=
  List.foldl_concat addTable tables t more

lemma addTables_append (tables more others : List TableId) :
    addTables tables (more ++ others) = addTables (addTables tables more) others :=
  List.foldl_append

lemma mem_addTables_nil {more : List TableId} {t : TableId} : t ∈ addTables [] more ↔ t ∈ more := by
  simp [mem_addTables]

/-- Of the tables that are added, those stay away that are there. -/
lemma addTables_eq (tables more : List TableId) :
    addTables tables more = tables ++ (addTables [] more).filter (· ∉ tables) := by
  induction more using List.reverseRecOn with
  | nil => simp [addTables]
  | append_singleton more t ih =>
    have hmem : t ∈ addTables tables more ↔ t ∈ tables ∨ t ∈ addTables [] more := by
      rw [mem_addTables, mem_addTables_nil]
    rw [addTables_concat, addTables_concat, addTable, addTable]
    by_cases hnew : t ∈ addTables [] more
    · rw [if_pos (hmem.2 (.inr hnew)), if_pos hnew, ih]
    · rw [if_neg hnew, List.filter_append, ← List.append_assoc, ← ih]
      by_cases hthere : t ∈ tables
      · rw [if_pos (hmem.2 (.inl hthere))]
        simp [hthere]
      · rw [if_neg (by rw [hmem]; simp [hthere, hnew])]
        simp [hthere]

/-- Tables that are added to none come in the order of first occurrence. -/
lemma pairwise_addTables (more : List TableId) :
    (addTables [] more).Pairwise fun t u => more.idxOf t < more.idxOf u := by
  induction more using List.reverseRecOn with
  | nil => exact .nil
  | append_singleton more t ih =>
    -- Where a table was first mentioned does not change when more is said.
    have hbefore : ∀ u ∈ addTables [] more, (more ++ [t]).idxOf u = more.idxOf u := by
      intro u hu
      exact List.idxOf_append_of_mem (mem_addTables_nil.1 hu)
    have ih : (addTables [] more).Pairwise
        fun u v => (more ++ [t]).idxOf u < (more ++ [t]).idxOf v := by
      refine ih.imp_of_mem fun hu hv huv => ?_
      rwa [hbefore _ hu, hbefore _ hv]
    rw [addTables_concat, addTable]
    split_ifs with ht
    · exact ih
    · rw [List.pairwise_append]
      refine ⟨ih, List.pairwise_singleton _ t, fun u hu v hv => ?_⟩
      have htmore : t ∉ more := mt mem_addTables_nil.2 ht
      rw [List.mem_singleton.1 hv, hbefore u hu, List.idxOf_append_of_notMem htmore]
      calc more.idxOf u < more.length := List.idxOf_lt_length_iff.2 (mem_addTables_nil.1 hu)
        _ ≤ more.length + [t].idxOf t := Nat.le_add_right _ _

lemma firstMentions_addTables (lists : List (List TableId)) :
    FirstMentions lists (addTables [] lists.flatten) where
  nodup := nodup_addTables .nil _
  mem_iff t := by rw [mem_addTables_nil, List.mem_flatten]
  ordered := pairwise_addTables lists.flatten

/-! ### The tables of views -/

lemma dependencySet_eq (dependencies : ViewId → List TableId) (views : List ViewId) :
    dependencySet dependencies views = addTables [] (views.map dependencies).flatten := by
  rw [← List.flatMap_def]
  exact List.foldl_flatMap.symm

/-- Views that come later add the tables that those before did not have. -/
lemma dependencySet_append (dependencies : ViewId → List TableId) (a b : List ViewId) :
    dependencySet dependencies (a ++ b) = dependencySet dependencies a
      ++ (dependencySet dependencies b).filter (· ∉ dependencySet dependencies a) := by
  rw [dependencySet_eq, List.map_append, List.flatten_append, addTables_append, addTables_eq,
    ← dependencySet_eq, ← dependencySet_eq]

namespace ViewIndex

/-- Something that is said to an index about a view. -/
inductive Change where
  | register (view : ViewId) (tables : List TableId)
  | remove (view : ViewId)
  deriving DecidableEq, Repr

/-- The view that is spoken of. -/
def Change.view : Change → ViewId
  | register v _ | remove v => v

/-- What an index is after a change. -/
def apply (x : ViewIndex) : Change → ViewIndex
  | .register v tables => x.register v tables
  | .remove v => (x.remove v).2

/-- An index to which all this was said. -/
def after (changes : List Change) : ViewIndex := changes.foldl apply empty

/-- The tables that were last registered for the view, unless it was removed since. -/
def standing (changes : List Change) (v : ViewId) : List TableId :=
  match (changes.filter (·.view = v)).getLast? with
  | some (.register _ tables) => tables
  | some (.remove _) | none => []

/-- An index answers by what was last said of the view. -/
lemma dependencies_after (changes : List Change) (v : ViewId) :
    (after changes).dependencies v = standing changes v := by
  induction changes using List.reverseRecOn with
  | nil => rfl
  | append_singleton changes c ih =>
    have hafter : after (changes ++ [c]) = (after changes).apply c := by
      rw [after, List.foldl_concat, after]
    rw [hafter, standing, List.filter_append]
    by_cases hv : c.view = v
    · -- This is what was last said of the view.
      rw [List.filter_cons_of_pos (by simpa using hv), List.filter_nil, List.getLast?_concat]
      subst hv
      cases c with
      | register w tables => simp [apply, Change.view]
      | remove w => simp [apply, Change.view]
    · rw [List.filter_cons_of_neg (by simpa using hv), List.filter_nil, List.append_nil, ← standing,
        ← ih]
      cases c with
      | register w tables => simp [apply, show v ≠ w from Ne.symm hv]
      | remove w => simp [apply, show v ≠ w from Ne.symm hv]

end ViewIndex

namespace Survey

variable {σ : Type} [Catalogue σ]

/-- The answers of a host that is asked for the tables of these views, one after the other, and the
host after that. -/
def answers (host : σ) : List ViewId → List (List TableId) × σ
  | [] => ([], host)
  | v :: vs =>
    let (tables, host) := Catalogue.dependencies host v
    let (lists, host) := answers host vs
    (tables :: lists, host)

/-- A survey that nobody interrupts adds the answers up. -/
lemma runUntilAsleep_survey [Locking σ] (w : World σ) (views : List ViewId)
    (tables : List TableId) :
    runUntilAsleep (views.length + 1) w (⟨views, tables⟩ : Survey)
      = ({ w with host := (answers w.host views).2 },
          .inr (addTables tables (answers w.host views).1.flatten)) := by
  induction views generalizing w tables with
  | nil => rfl
  | cons v vs ih =>
    have hstep : Stepping.step w (⟨v :: vs, tables⟩ : Survey)
        = ({ w with host := (Catalogue.dependencies w.host v).2 },
            .next ⟨vs, addTables tables (Catalogue.dependencies w.host v).1⟩) := rfl
    rw [List.length_cons, runUntilAsleep, hstep]
    show runUntilAsleep (vs.length + 1) _ _ = _
    rw [ih, ← addTables_append, ← List.flatten_cons]
    rfl

end Survey

/-- Whatever an index tells of views, known or not, and however often a view is named, their dependency
set has each table once that one of them depends on, in the order of first mention, and the views that
are named after others add what these have not brought.

* This is so of the index in memory, with the tables that were last registered for each view and not
  removed since.
* It is so of a survey that a call makes of any host, with the answers that the host gives. -/
theorem dependencySet_firstMentions :
    (∀ (dependencies : ViewId → List TableId) (a b : List ViewId),
      let found := dependencySet dependencies
      FirstMentions (a.map dependencies) (found a) ∧
        found (a ++ b) = found a ++ (found b).filter (· ∉ found a)) ∧
      (∀ (changes : List ViewIndex.Change) (a b : List ViewId),
        let found := dependencySet (ViewIndex.after changes).dependencies
        FirstMentions (a.map (ViewIndex.standing changes)) (found a) ∧
          found (a ++ b) = found a ++ (found b).filter (· ∉ found a)) ∧
      ∀ (σ : Type) [Catalogue σ] [Locking σ] (w : World σ) (views : List ViewId),
        let asked := Survey.answers w.host views
        ∃ tables, runUntilAsleep (views.length + 1) w (Survey.ofViews views)
            = ({ w with host := asked.2 }, .inr tables) ∧
          FirstMentions asked.1 tables := by
  have hset (dependencies : ViewId → List TableId) (views : List ViewId) :
      FirstMentions (views.map dependencies) (dependencySet dependencies views) := by
    rw [dependencySet_eq]
    exact firstMentions_addTables _
  refine ⟨fun dependencies a b => ⟨hset dependencies a, ?_⟩, fun changes a b => ⟨?_, ?_⟩,
    fun σ _ _ w views =>
      ⟨addTables [] (Survey.answers w.host views).1.flatten, ?_, ?_⟩⟩
  · exact dependencySet_append dependencies a b
  · have hstanding : (ViewIndex.after changes).dependencies = ViewIndex.standing changes :=
      funext (ViewIndex.dependencies_after changes)
    rw [hstanding]
    exact hset _ a
  · exact dependencySet_append _ a b
  · exact Survey.runUntilAsleep_survey w views []
  · exact firstMentions_addTables _

/-- View 1 was registered again, view 4 was removed, and view 99 is not known. -/
example :
    let x := ViewIndex.after
      [.register 1 [9], .register 2 [1, 2, 3], .register 1 [3, 1], .register 4 [7], .remove 4]
    dependencySet x.dependencies [1, 2, 4, 99, 1] = [3, 1, 2] := by decide

end QueryAdmission
