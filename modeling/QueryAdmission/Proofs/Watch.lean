import Mathlib.Data.Multiset.Filter
import QueryAdmission.Workload

/-!
# What a timeline shows

As long as executions with tables in common are not open at the same time, and those that are open
have different labels, a timeline that watches them shows those that are open (`Timeline.Shows`) and
no violation. The labels under which workers execute their queries are all different
(`Workload.label_inj`).
-/

namespace QueryAdmission

namespace Timeline

variable {t : Timeline} {runs : Multiset Errand} {e : Errand}

/-- After an execution has begun, its tables count as its own. -/
lemma occupant_enter (t : Timeline) (label : String) (tables : List TableId) (u : TableId) :
    (t.enter label tables).occupant u = if u ∈ tables then some label else t.occupant u := by
  show (tables.foldl (occupy label) t.active).lookup u = if u ∈ tables then _ else t.active.lookup u
  induction tables generalizing t with
  | nil => simp
  | cons v tables ih =>
    rw [List.foldl_cons, ih ⟨_, 0, 0, [], []⟩, lookup_occupy]
    by_cases hu : u ∈ tables <;> by_cases hv : u = v <;> simp [hu, hv]

/-- After an execution has ended, those of its tables that counted as its own are free. -/
lemma occupant_exit (t : Timeline) (label : String) (tables : List TableId) (u : TableId) :
    (t.exit label tables).occupant u
      = if u ∈ tables ∧ t.occupant u = some label then none else t.occupant u := by
  show (tables.foldl (vacate label) t.active).lookup u
    = if u ∈ tables ∧ t.active.lookup u = some label then none else t.active.lookup u
  induction tables generalizing t with
  | nil => simp
  | cons v tables ih =>
    rw [List.foldl_cons, ih ⟨_, 0, 0, [], []⟩, lookup_vacate]
    by_cases hu : u ∈ tables <;> by_cases hv : u = v <;> simp [hu, hv]

/-- The executions that are open are shown, and no violation. -/
structure Shows (t : Timeline) (runs : Multiset Errand) : Prop where
  concurrent_eq : t.concurrent = runs.card
  occupied : ∀ u label, t.occupant u = some label → ∃ e ∈ runs, e.label = label ∧ u ∈ e.tables
  violations_eq : t.violations = []

lemma shows_empty : empty.Shows 0 where
  concurrent_eq := rfl
  occupied u label h := by cases h
  violations_eq := rfl

/-- An execution may begin on tables on which no other one is open. -/
lemma Shows.enter (h : t.Shows runs) (hd : ∀ r ∈ runs, r.tables.Disjoint e.tables) :
    (t.enter e.label e.tables).Shows (e ::ₘ runs) where
  concurrent_eq := by
    show t.concurrent + 1 = _
    rw [h.concurrent_eq, Multiset.card_cons]
  occupied u label ho := by
    rw [occupant_enter] at ho
    split_ifs at ho with hu
    · exact ⟨e, Multiset.mem_cons_self e runs, Option.some.inj ho, hu⟩
    · obtain ⟨r, hr, hl, hu⟩ := h.occupied u label ho
      exact ⟨r, Multiset.mem_cons_of_mem hr, hl, hu⟩
  violations_eq := by
    show t.violations ++ t.conflicts e.label e.tables = []
    rw [h.violations_eq, List.nil_append, conflicts, List.filterMap_eq_nil_iff]
    intro u hu
    rcases ho : t.occupant u with _ | label
    · rfl
    · obtain ⟨r, hr, -, hur⟩ := h.occupied u label ho
      exact absurd hu (hd r hr hur)

/-- An execution ends whose label is that of no other one. -/
lemma Shows.exit (h : t.Shows (e ::ₘ runs)) (hl : ∀ r ∈ runs, r.label ≠ e.label) :
    (t.exit e.label e.tables).Shows runs where
  concurrent_eq := by
    show t.concurrent - 1 = _
    rw [h.concurrent_eq, Multiset.card_cons, Nat.add_sub_cancel]
  occupied u label ho := by
    rw [occupant_exit] at ho
    split_ifs at ho with hu
    obtain ⟨r, hr, hrl, hur⟩ := h.occupied u label ho
    rcases Multiset.mem_cons.1 hr with rfl | hr
    · exact absurd ⟨hur, hrl ▸ ho⟩ hu
    · exact ⟨r, hr, hrl, hur⟩
  violations_eq := h.violations_eq

end Timeline

/-! ### Labels -/

namespace Workload

/-- The label under which a worker executes its query in a round. -/
def label (worker round : Nat) : String := "w" ++ worker.repr ++ " r" ++ round.repr

lemma notMem_repr (n : Nat) {c : Char} (hc : c.isDigit = false) : c ∉ n.repr.toList := by
  intro h
  rw [Nat.toList_repr] at h
  rw [Nat.isDigit_of_mem_toDigits (by decide) (by decide) h] at hc
  cases hc

lemma eq_of_toList_repr {n m : Nat} (h : n.repr.toList = m.repr.toList) : n = m := by
  rw [Nat.toList_repr, Nat.toList_repr] at h
  have hd := congrArg (Nat.ofDigitChars 10 · 0) h
  simpa only [Nat.ofDigitChars_ten_toDigits] using hd

/-- Different queries have different labels. -/
lemma label_inj {n n' r r' : Nat} : label n r = label n' r' ↔ n = n' ∧ r = r' := by
  constructor
  · intro h
    have h : n.repr.toList ++ ' ' :: 'r' :: r.repr.toList
        = n'.repr.toList ++ ' ' :: 'r' :: r'.repr.toList := by
      simpa [label] using congrArg String.toList h
    have hr : ' ' ∉ 'r' :: r.repr.toList := by
      simpa only [List.mem_cons, not_or] using ⟨by decide, notMem_repr r rfl⟩
    obtain ⟨hn, -, hr⟩ := (List.append_cons_inj_of_notMem (notMem_repr n rfl) hr).1 h
    exact ⟨eq_of_toList_repr hn, eq_of_toList_repr (List.cons.inj hr).2⟩
  · rintro ⟨rfl, rfl⟩
    rfl

end Workload

end QueryAdmission
