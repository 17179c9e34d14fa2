import Mathlib.Data.List.Induction
import Mathlib.Order.Bounds.Basic
import QueryAdmission.Proofs.Watch

/-!
# The outcome of a timeline

Executions begin and end in any order while a timeline watches them (`WatchedRuns.Change`). Labels
may be equal, and a table may be listed twice. A timeline remembers one label for each table, and
that is enough for its outcome (`WatchedRuns.outcome_exact`): it shows a violation exactly if two
executions with a table in common were open at some moment.

Two facts carry this. Only an execution that is open occupies a table (`WatchedRuns.Faithful`), so
that no violation is made up. And as long as no two open executions have had a table in common,
every table of an open execution is occupied (`WatchedRuns.Undisputed`), so that the first violation
is not overlooked.
-/

namespace QueryAdmission

namespace WatchedRuns

/-- An execution begins, or the one of that number ends. -/
inductive Change where
  | enter (r : OpenRun)
  | exit (number : Nat)
  deriving DecidableEq, Repr

/-- The execution that begins, if one does. -/
def Change.entrant? : Change → Option OpenRun
  | enter r => some r
  | exit _ => none

/-- What a change leaves. -/
def apply (w : WatchedRuns) : Change → WatchedRuns
  | .enter r => w.enter r
  | .exit number => w.exit number

/-- What was seen up to the moment after these changes, and which executions are open then. -/
def after (changes : List Change) : WatchedRuns := changes.foldl apply empty

/-- The executions that begin, in order. -/
def entrants (changes : List Change) : List OpenRun := changes.filterMap Change.entrant?

variable {w : WatchedRuns} {changes : List Change} {r : OpenRun} {number : Nat}

lemma after_concat (changes : List Change) (c : Change) :
    after (changes ++ [c]) = (after changes).apply c := by
  rw [after, List.foldl_concat, ← after]

lemma entrants_concat (changes : List Change) (c : Change) :
    entrants (changes ++ [c]) = entrants changes ++ c.entrant?.toList := by
  rw [entrants, List.filterMap_append, ← entrants]
  cases c <;> rfl

/-- Nothing ends, or one of the executions that are open. -/
lemma exit_or (w : WatchedRuns) (number : Nat) :
    w.exit number = w ∨ ∃ q older newer, w.runs = older ++ q :: newer ∧
      w.exit number = ⟨w.timeline.exit q.label q.tables, older ++ newer⟩ := by
  rw [exit]
  split
  · next q hq =>
    obtain ⟨hn, older, newer, hruns, holder⟩ := List.find?_eq_some_iff_append.1 hq
    refine .inr ⟨q, older, newer, hruns, ?_⟩
    have herase : (q :: newer).eraseP (·.number = number) = newer := List.eraseP_cons_of_pos hn
    rw [hruns, List.eraseP_append_right _ (by simpa using holder), herase]
  · exact .inl rfl

/-! ### What is always so -/

/-- As many executions are counted as are open, and a table is occupied by one of them. -/
structure Faithful (w : WatchedRuns) : Prop where
  concurrent_eq : w.timeline.concurrent = w.runs.length
  occupied : ∀ u label, w.timeline.occupant u = some label →
    ∃ q ∈ w.runs, q.label = label ∧ u ∈ q.tables

lemma faithful_empty : empty.Faithful where
  concurrent_eq := rfl
  occupied u label h := by cases h

lemma Faithful.enter (h : w.Faithful) (r : OpenRun) : (w.enter r).Faithful where
  concurrent_eq := by
    show w.timeline.concurrent + 1 = (w.runs ++ [r]).length
    rw [h.concurrent_eq, List.length_append, List.length_singleton]
  occupied u label ho := by
    have ho : (w.timeline.enter r.label r.tables).occupant u = some label := ho
    rw [Timeline.occupant_enter] at ho
    split_ifs at ho with hu
    · exact ⟨r, List.mem_append_right _ (List.mem_singleton_self r), Option.some.inj ho, hu⟩
    · obtain ⟨q, hq, hl, hu⟩ := h.occupied u label ho
      exact ⟨q, List.mem_append_left _ hq, hl, hu⟩

lemma Faithful.exit (h : w.Faithful) (number : Nat) : (w.exit number).Faithful := by
  rcases w.exit_or number with he | ⟨q, older, newer, hruns, he⟩
  · rwa [he]
  · rw [he]
    refine ⟨?_, fun u label ho => ?_⟩
    · show w.timeline.concurrent - 1 = (older ++ newer).length
      rw [h.concurrent_eq, hruns, List.length_append, List.length_append, List.length_cons]
      omega
    · have hw : (w.timeline.exit q.label q.tables).occupant u = some label := ho
      rw [Timeline.occupant_exit] at hw
      split_ifs at hw with hu
      obtain ⟨p, hp, rfl, hup⟩ := h.occupied u label hw
      -- The one that ends would have left the table.
      have hne : p ≠ q := by
        rintro rfl
        exact hu ⟨hup, hw⟩
      rw [hruns, List.mem_append, List.mem_cons] at hp
      refine ⟨p, List.mem_append.2 ?_, rfl, hup⟩
      exact hp.imp_right fun hp => hp.resolve_left hne

lemma faithful_after (changes : List Change) : (after changes).Faithful := by
  induction changes using List.reverseRecOn with
  | nil => exact faithful_empty
  | append_singleton changes c ih =>
    rw [after_concat]
    cases c with
    | enter r => exact ih.enter r
    | exit number => exact ih.exit number

/-- Whoever begins does not conflict with itself: a violation that is noted then names another
execution, which is open. -/
lemma Faithful.conflicts (h : w.Faithful) (r : OpenRun) :
    ∀ v ∈ w.timeline.conflicts r.label r.tables, v.entering = r.label ∧ v.table ∈ r.tables ∧
      ∃ q ∈ w.runs, v.running = q.label ∧ v.table ∈ q.tables := by
  intro v hv
  obtain ⟨u, hu, hv⟩ := List.mem_filterMap.1 hv
  obtain ⟨label, ho, rfl⟩ := Option.map_eq_some_iff.1 hv
  obtain ⟨q, hq, hl, huq⟩ := h.occupied u label ho
  exact ⟨rfl, hu, q, hq, hl.symm, huq⟩

/-! ### As long as no table is shared -/

/-- No two executions that are open have a table in common. -/
def Apart (w : WatchedRuns) : Prop := w.runs.Pairwise fun q r => q.tables.Disjoint r.tables

/-- That was so from the beginning, up to the moment after these changes. -/
def AlwaysApart (changes : List Change) : Prop :=
  ∀ before, before <+: changes → (after before).Apart

/-- The executions that are open are apart, and each occupies its tables. -/
structure Undisputed (w : WatchedRuns) : Prop where
  apart : w.Apart
  held : ∀ q ∈ w.runs, ∀ u ∈ q.tables, w.timeline.occupant u ≠ none

lemma apart_enter_iff : (w.enter r).Apart ↔ w.Apart ∧ ∀ q ∈ w.runs, q.tables.Disjoint r.tables := by
  show (w.runs ++ [r]).Pairwise _ ↔ _
  rw [List.pairwise_append, Apart]
  simp only [List.pairwise_singleton, List.mem_singleton, forall_eq, true_and]

lemma Apart.exit (h : w.Apart) (number : Nat) : (w.exit number).Apart := by
  rcases w.exit_or number with he | ⟨q, older, newer, hruns, he⟩
  · rwa [he]
  · rw [he]
    have hs : (older ++ newer).Sublist (older ++ q :: newer) :=
      (List.Sublist.refl older).append (List.sublist_cons_self q newer)
    exact List.Pairwise.sublist (hruns ▸ hs) h

lemma Undisputed.enter (h : w.Undisputed) (ha : (w.enter r).Apart) : (w.enter r).Undisputed where
  apart := ha
  held q hq u hu := by
    show (w.timeline.enter r.label r.tables).occupant u ≠ none
    rw [Timeline.occupant_enter]
    split_ifs with hur
    · exact Option.some_ne_none _
    · refine h.held q ((List.mem_append.1 hq).resolve_right fun hq => hur ?_) u hu
      rwa [← List.mem_singleton.1 hq]

lemma Undisputed.exit (h : w.Undisputed) (number : Nat) : (w.exit number).Undisputed := by
  refine ⟨h.apart.exit number, ?_⟩
  rcases w.exit_or number with he | ⟨q, older, newer, hruns, he⟩
  · rw [he]
    exact h.held
  · rw [he]
    intro p hp u hu
    show (w.timeline.exit q.label q.tables).occupant u ≠ none
    have hap : (older ++ q :: newer).Pairwise fun q r => q.tables.Disjoint r.tables := by
      rw [← hruns]
      exact h.apart
    have hpw : p ∈ w.runs := by
      rw [hruns, List.mem_append, List.mem_cons]
      exact (List.mem_append.1 hp).imp_right .inr
    have huq : u ∉ q.tables := by
      intro huq
      rw [List.pairwise_append, List.pairwise_cons] at hap
      rcases List.mem_append.1 hp with hp | hp
      · exact hap.2.2 p hp q List.mem_cons_self hu huq
      · exact hap.2.1.1 p hp huq hu
    rw [Timeline.occupant_exit, if_neg fun hc => huq hc.1]
    exact h.held p hpw u hu

/-- Among executions that are undisputed, one begins without a violation exactly if it is apart from
all that are open. -/
lemma Undisputed.conflicts_eq_nil_iff (h : w.Undisputed) (hf : w.Faithful) :
    w.timeline.conflicts r.label r.tables = [] ↔ ∀ q ∈ w.runs, q.tables.Disjoint r.tables := by
  constructor
  · intro hc q hq u huq hur
    obtain ⟨label, ho⟩ := Option.ne_none_iff_exists'.1 (h.held q hq u huq)
    have hn := List.filterMap_eq_nil_iff.1 hc u hur
    rw [ho] at hn
    cases hn
  · intro hd
    refine List.eq_nil_iff_forall_not_mem.2 fun v hv => ?_
    obtain ⟨-, hur, q, hq, -, huq⟩ := hf.conflicts r v hv
    exact hd q hq huq hur

lemma alwaysApart_concat {c : Change} :
    AlwaysApart (changes ++ [c]) ↔ AlwaysApart changes ∧ (after (changes ++ [c])).Apart := by
  constructor
  · intro h
    exact ⟨fun before hb => h before (hb.trans (List.prefix_append changes [c])),
      h _ List.prefix_rfl⟩
  · rintro ⟨h, hlast⟩ before hb
    rcases List.prefix_concat_iff.1 hb with rfl | hb
    · exact hlast
    · exact h before hb

lemma AlwaysApart.undisputed (h : AlwaysApart changes) : (after changes).Undisputed := by
  induction changes using List.reverseRecOn with
  | nil => exact ⟨.nil, fun q hq => absurd hq List.not_mem_nil⟩
  | append_singleton changes c ih =>
    obtain ⟨hbefore, hlast⟩ := alwaysApart_concat.1 h
    rw [after_concat] at hlast ⊢
    cases c with
    | enter r => exact (ih hbefore).enter hlast
    | exit number => exact (ih hbefore).exit number

/-- No violation is shown exactly if all that were open were apart at every moment. -/
lemma violations_eq_nil_iff (changes : List Change) :
    (after changes).timeline.violations = [] ↔ AlwaysApart changes := by
  induction changes using List.reverseRecOn with
  | nil =>
    refine ⟨fun _ before hb => ?_, fun _ => rfl⟩
    rw [List.prefix_nil.1 hb]
    exact .nil
  | append_singleton changes c ih =>
    rw [alwaysApart_concat, ← ih, after_concat]
    cases c with
    | enter r =>
      show (after changes).timeline.violations ++ _ = [] ↔ _
      rw [List.append_eq_nil_iff]
      refine and_congr_right fun hv => ?_
      have hu := (ih.1 hv).undisputed
      rw [hu.conflicts_eq_nil_iff (faithful_after changes)]
      exact (apart_enter_iff.trans (and_iff_right hu.apart)).symm
    | exit number =>
      have hsame : ((after changes).apply (.exit number)).timeline.violations
          = (after changes).timeline.violations := by
        rcases (after changes).exit_or number with he | ⟨q, older, newer, -, he⟩
        · exact congrArg (·.timeline.violations) he
        · exact congrArg (·.timeline.violations) he
      rw [hsame]
      exact ⟨fun hv => ⟨hv, (ih.1 hv).undisputed.apart.exit number⟩, And.left⟩

/-! ### How many, and in which order -/

/-- The number of executions that are open after some of these changes. -/
def counts (changes : List Change) : Set Nat :=
  {n | ∃ before, before <+: changes ∧ (after before).runs.length = n}

lemma counts_concat (changes : List Change) (c : Change) :
    counts (changes ++ [c]) = insert (after (changes ++ [c])).runs.length (counts changes) := by
  ext n
  simp only [counts, List.prefix_concat_iff, or_and_right, exists_or, exists_eq_left,
    Set.mem_insert_iff, Set.mem_ofPred_eq, eq_comm]

lemma isGreatest_maxConcurrent (changes : List Change) :
    IsGreatest (counts changes) (after changes).timeline.maxConcurrent := by
  induction changes using List.reverseRecOn with
  | nil =>
    refine ⟨⟨[], List.prefix_rfl, rfl⟩, ?_⟩
    rintro n ⟨before, hb, rfl⟩
    rw [List.prefix_nil.1 hb]
    exact Nat.le_refl 0
  | append_singleton changes c ih =>
    rw [counts_concat]
    have hmax : (after (changes ++ [c])).timeline.maxConcurrent
        = max (after (changes ++ [c])).runs.length (after changes).timeline.maxConcurrent := by
      have hle := ih.2 ⟨changes, List.prefix_rfl, rfl⟩
      rw [after_concat]
      cases c with
      | enter r =>
        show max _ ((after changes).timeline.concurrent + 1)
          = max ((after changes).runs ++ [r]).length _
        rw [(faithful_after changes).concurrent_eq, List.length_append, List.length_singleton,
          Nat.max_comm]
      | exit number =>
        rcases (after changes).exit_or number with he | ⟨q, older, newer, hruns, he⟩
        · rw [apply, he, Nat.max_eq_right hle]
        · rw [apply, he]
          rw [hruns, List.length_append, List.length_cons] at hle
          show _ = max (older ++ newer).length _
          rw [List.length_append, Nat.max_eq_right (by omega)]
          rfl
    rw [hmax]
    exact ih.insert _

lemma started_after (changes : List Change) :
    (after changes).timeline.started = (entrants changes).map (·.label) := by
  induction changes using List.reverseRecOn with
  | nil => rfl
  | append_singleton changes c ih =>
    rw [after_concat, entrants_concat, List.map_append, ← ih]
    cases c with
    | enter r => rfl
    | exit number =>
      rw [Change.entrant?, Option.toList_none, List.map_nil, List.append_nil]
      rcases (after changes).exit_or number with he | ⟨q, older, newer, -, he⟩
      · exact congrArg (·.timeline.started) he
      · exact congrArg (·.timeline.started) he

/-- Whatever executions begin and end, and in whatever order:

* The timeline is not exclusive exactly if at some moment two executions were open that have a table
  in common.
* Its maximum is the largest number of executions that were open at one moment.
* The labels are listed in the order in which the executions began.
* Each violation that is noted when an execution begins is on a table of another one that is open at
  this moment, and names that one. -/
theorem outcome_exact (changes : List Change) :
    let t := (after changes).timeline
    (t.isExclusive = false ↔ ∃ before, before <+: changes ∧
        ∃ q r u, [q, r].Sublist (after before).runs ∧ u ∈ q.tables ∧ u ∈ r.tables) ∧
      IsGreatest {n | ∃ before, before <+: changes ∧ (after before).runs.length = n}
        t.maxConcurrent ∧
      t.started = (entrants changes).map (·.label) ∧
      ∀ r, ∃ noted, (after (changes ++ [.enter r])).timeline.violations = t.violations ++ noted ∧
        ∀ v ∈ noted, v.entering = r.label ∧ v.table ∈ r.tables ∧
          ∃ q ∈ (after changes).runs, v.running = q.label ∧ v.table ∈ q.tables := by
  intro t
  refine ⟨?_, isGreatest_maxConcurrent changes, started_after changes, fun r => ?_⟩
  · have hexclusive : t.isExclusive = true ↔ AlwaysApart changes :=
      List.isEmpty_iff.trans (violations_eq_nil_iff changes)
    rw [← Bool.not_eq_true, hexclusive, AlwaysApart]
    simp only [Apart, List.pairwise_iff_forall_sublist, List.Disjoint, not_forall,
      not_false_eq_true, exists_prop, and_true, exists_and_left]
  · rw [after_concat]
    exact ⟨_, rfl, (faithful_after changes).conflicts r⟩

end WatchedRuns

end QueryAdmission
