import QueryAdmission.Proofs.Outcome

/-!
# Which violations are noted

A table is occupied by the execution that entered it last, until that one ends
(`WatchedRuns.occupant_after`); it is not handed back to an execution that was on it before. So when
several executions have been on a table, a later one meets the last of them or nobody. A violation
is noted for each table whose last execution is still open (`WatchedRuns.violations_enter`), and not
for each table on which some execution is open (`WatchedRuns.open_run_overlooked`).
-/

namespace QueryAdmission

namespace WatchedRuns

/-- The execution that was the last one to enter the table. -/
def latest? (changes : List Change) (u : TableId) : Option OpenRun :=
  ((entrants changes).filter (·.tables.contains u)).getLast?

/-- The last execution to enter the table, if it is open. -/
def holder? (changes : List Change) (u : TableId) : Option OpenRun :=
  (latest? changes u).filter (· ∈ (after changes).runs)

variable {changes : List Change} {r q : OpenRun} {u : TableId}

lemma latest?_enter (changes : List Change) (r : OpenRun) (u : TableId) :
    latest? (changes ++ [.enter r]) u = if u ∈ r.tables then some r else latest? changes u := by
  rw [latest?, entrants_concat, List.filter_append]
  show (_ ++ [r].filter _).getLast? = _
  split_ifs with hu
  · rw [List.filter_cons_of_pos (by simpa using hu), List.filter_nil, List.getLast?_concat]
  · rw [List.filter_cons_of_neg (by simpa using hu), List.filter_nil, List.append_nil, latest?]

lemma latest?_exit (changes : List Change) (number : Nat) (u : TableId) :
    latest? (changes ++ [.exit number]) u = latest? changes u := by
  rw [latest?, entrants_concat, Change.entrant?, Option.toList_none, List.append_nil, latest?]

lemma mem_of_latest? (h : latest? changes u = some q) : q ∈ entrants changes ∧ u ∈ q.tables := by
  have hm := List.mem_filter.1 (List.mem_of_getLast? h)
  exact ⟨hm.1, List.contains_iff_mem.1 hm.2⟩

lemma holder?_eq_some_iff :
    holder? changes u = some q ↔ latest? changes u = some q ∧ q ∈ (after changes).runs := by
  rw [holder?, Option.filter_eq_some_iff, decide_eq_true_iff]

/-- Those that are open have begun, in this order. -/
lemma runs_sublist (changes : List Change) : (after changes).runs.Sublist (entrants changes) := by
  induction changes using List.reverseRecOn with
  | nil => exact .refl []
  | append_singleton changes c ih =>
    rw [after_concat, entrants_concat]
    cases c with
    | enter r => exact ih.append (.refl [r])
    | exit number =>
      rw [Change.entrant?, Option.toList_none, List.append_nil]
      rcases (after changes).exit_or number with he | ⟨q, older, newer, hruns, he⟩
      · rwa [apply, he]
      · rw [apply, he]
        rw [hruns] at ih
        exact ((List.Sublist.refl older).append (List.sublist_cons_self q newer)).trans ih

/-- With labels of their own, executions are told apart by their labels. -/
lemma eq_of_label_eq (hl : ((entrants changes).map (·.label)).Nodup) (hq : q ∈ entrants changes)
    (hr : r ∈ entrants changes) (h : q.label = r.label) : q = r :=
  List.inj_on_of_nodup_map hl hq hr h

/-- An execution occupies the tables that it enters, whoever was there. -/
lemma holder?_enter (hl : ((entrants (changes ++ [.enter r])).map (·.label)).Nodup) :
    holder? (changes ++ [.enter r]) u = if u ∈ r.tables then some r else holder? changes u := by
  have hruns : (after (changes ++ [.enter r])).runs = (after changes).runs ++ [r] := by
    rw [after_concat]
    rfl
  ext q
  rw [holder?_eq_some_iff, latest?_enter, hruns, List.mem_append, List.mem_singleton]
  split_ifs with hu
  · rw [Option.some.injEq, and_iff_left_of_imp]
    rintro rfl
    exact .inr rfl
  · rw [holder?_eq_some_iff]
    refine and_congr_right fun hq => or_iff_left ?_
    rintro rfl
    -- It would have begun before it begins.
    rw [entrants_concat, List.map_append] at hl
    have hd := (List.nodup_append.1 hl).2.2
    exact hd q.label (List.mem_map_of_mem (mem_of_latest? hq).1) q.label (List.mem_singleton_self _)
      rfl

/-- When an execution ends, nobody occupies the tables that it occupied, and all others are occupied
as before. -/
lemma holder?_exit (hl : ((entrants changes).map (·.label)).Nodup) {older newer : List OpenRun}
    {number : Nat} (hruns : (after changes).runs = older ++ q :: newer)
    (he : (after changes).exit number
      = ⟨(after changes).timeline.exit q.label q.tables, older ++ newer⟩) :
    holder? (changes ++ [.exit number]) u
      = if holder? changes u = some q then none else holder? changes u := by
  have hnodup : (older ++ q :: newer).Nodup := by
    rw [← hruns]
    exact (List.Nodup.of_map _ hl).sublist (runs_sublist changes)
  have hmem (p : OpenRun) :
      p ∈ (after (changes ++ [.exit number])).runs ↔ p ∈ (after changes).runs ∧ p ≠ q := by
    rw [after_concat, apply, he, hruns]
    show p ∈ older ++ newer ↔ _
    have hperm : (older ++ q :: newer).Perm (q :: (older ++ newer)) := List.perm_middle
    rw [hperm.mem_iff]
    have hq : q ∉ older ++ newer := (List.nodup_middle.1 hnodup).notMem
    rw [List.mem_cons]
    constructor
    · intro hp
      refine ⟨.inr hp, ?_⟩
      rintro rfl
      exact hq hp
    · rintro ⟨hp, hne⟩
      exact hp.resolve_left hne
  ext p
  rw [holder?_eq_some_iff, latest?_exit, hmem, ← and_assoc, ← holder?_eq_some_iff]
  split_ifs with hq
  · rw [hq]
    exact ⟨fun h => absurd (Option.some.inj h.1).symm h.2, False.elim⟩
  · refine and_iff_left_of_imp ?_
    rintro hp rfl
    exact hq hp

/-- A table is occupied by the execution that entered it last, as long as that one is open. -/
lemma occupant_after (hl : ((entrants changes).map (·.label)).Nodup) (u : TableId) :
    (after changes).timeline.occupant u = (holder? changes u).map (·.label) := by
  induction changes using List.reverseRecOn with
  | nil => rfl
  | append_singleton changes c ih =>
    have hl' : ((entrants changes).map (·.label)).Nodup := by
      rw [entrants_concat, List.map_append] at hl
      exact (List.nodup_append.1 hl).1
    cases c with
    | enter r =>
      rw [holder?_enter hl, after_concat]
      show ((after changes).timeline.enter r.label r.tables).occupant u = _
      rw [Timeline.occupant_enter, ih hl']
      split_ifs <;> rfl
    | exit number =>
      rcases (after changes).exit_or number with he | ⟨q, older, newer, hruns, he⟩
      · have hsame : after (changes ++ [.exit number]) = after changes := by
          rw [after_concat, apply, he]
        rw [holder?, latest?_exit, hsame, ih hl', holder?]
      · rw [holder?_exit hl' hruns he, after_concat, apply, he]
        show ((after changes).timeline.exit q.label q.tables).occupant u = _
        rw [Timeline.occupant_exit, ih hl']
        have hq : q ∈ (after changes).runs := by
          rw [hruns]
          exact List.mem_append_right _ List.mem_cons_self
        have hiff : u ∈ q.tables ∧ (holder? changes u).map (·.label) = some q.label ↔
            holder? changes u = some q := by
          constructor
          · rintro ⟨-, h⟩
            obtain ⟨p, hp, hpq⟩ := Option.map_eq_some_iff.1 h
            have hpe := (mem_of_latest? (holder?_eq_some_iff.1 hp).1).1
            rw [hp, eq_of_label_eq hl' hpe ((runs_sublist changes).subset hq) hpq]
          · intro h
            exact ⟨(mem_of_latest? (holder?_eq_some_iff.1 h).1).2, by rw [h]; rfl⟩
        simp only [hiff]
        split_ifs <;> rfl

/-- When an execution begins and those before it had labels of their own, the violations that are
noted name exactly those of its tables which the last execution to enter them has not left, each
once and in order, with the label of that execution. A table on which another execution is open is
passed over exactly if a later one has entered it and has left. -/
theorem violations_enter (hl : ((entrants changes).map (·.label)).Nodup) (hr : r.tables.Nodup) :
    ∃ noted, (after (changes ++ [.enter r])).timeline.violations
        = (after changes).timeline.violations ++ noted ∧
      noted.map (·.table) = r.tables.filter (fun u => (holder? changes u).isSome) ∧
      (noted.map (·.table)).Nodup ∧
      (∀ v ∈ noted, v.entering = r.label ∧ ∃ q ∈ (after changes).runs,
        latest? changes v.table = some q ∧ v.table ∈ q.tables ∧ v.running = q.label) ∧
      ∀ u ∈ r.tables, ∀ q ∈ (after changes).runs, u ∈ q.tables →
        (u ∉ noted.map (·.table) ↔ ∃ p, latest? changes u = some p ∧ p ∉ (after changes).runs) := by
  have hnoted : (after changes).timeline.conflicts r.label r.tables
      = r.tables.filterMap fun u => (holder? changes u).map fun q => ⟨u, q.label, r.label⟩ := by
    refine List.filterMap_congr fun u _ => ?_
    rw [occupant_after hl, Option.map_map]
    rfl
  have htables : ((after changes).timeline.conflicts r.label r.tables).map (·.table)
      = r.tables.filter (fun u => (holder? changes u).isSome) := by
    rw [hnoted, List.map_filterMap, ← List.filterMap_eq_filter]
    refine List.filterMap_congr fun u _ => ?_
    cases h : holder? changes u <;> simp [h, Option.guard]
  refine ⟨_, by rw [after_concat]; rfl, htables, ?_, ?_, ?_⟩
  · rw [htables]
    exact hr.filter _
  · intro v hv
    rw [hnoted] at hv
    obtain ⟨u, hu, hv⟩ := List.mem_filterMap.1 hv
    obtain ⟨q, hq, rfl⟩ := Option.map_eq_some_iff.1 hv
    obtain ⟨hlast, hopen⟩ := holder?_eq_some_iff.1 hq
    exact ⟨rfl, q, hopen, hlast, (mem_of_latest? hlast).2, rfl⟩
  · intro u hu q hq huq
    rw [htables, List.mem_filter, and_iff_right hu, Bool.not_eq_true, Option.isSome_eq_false_iff,
      Option.isNone_iff_eq_none]
    -- Somebody has entered the table.
    have hentered : q ∈ (entrants changes).filter (·.tables.contains u) :=
      List.mem_filter.2 ⟨(runs_sublist changes).subset hq, List.contains_iff_mem.2 huq⟩
    obtain ⟨p, hp⟩ : ∃ p, latest? changes u = some p :=
      ⟨_, List.getLast?_eq_getLast_of_ne_nil (List.ne_nil_of_mem hentered)⟩
    rw [holder?, hp]
    simp

/-- Three executions on one table. The second one has entered it and has left; the third one meets
the first on the other table, and is not told that it is on this one too. -/
theorem violations_enter_third :
    let first : OpenRun := ⟨1, "a", [1, 2]⟩
    let second : OpenRun := ⟨2, "b", [1]⟩
    let third : OpenRun := ⟨3, "c", [1, 2]⟩
    let changes : List Change := [.enter first, .enter second, .exit 2]
    ((entrants changes).map (·.label)).Nodup ∧ third.tables.Nodup ∧
      (after changes).runs = [first] ∧
      ∃ noted, (after (changes ++ [.enter third])).timeline.violations
          = (after changes).timeline.violations ++ noted ∧
        noted.map (·.table) = [2] ∧ (∀ v ∈ noted, v.running = "a" ∧ v.entering = "c") ∧
        ∃ p, latest? changes 1 = some p ∧ p ∉ (after changes).runs := by
  intro first second third changes
  have hl : ((entrants changes).map (·.label)).Nodup := by decide
  have hr : third.tables.Nodup := by decide
  have hruns : (after changes).runs = [first] := by decide
  obtain ⟨noted, hv, htables, -, hnames, hover⟩ := violations_enter hl hr
  have htwo : noted.map (·.table) = [2] := htables.trans (by decide)
  refine ⟨hl, hr, hruns, noted, hv, htwo, fun v hn => ?_, ?_⟩
  · obtain ⟨hentering, q, hq, -, -, hrunning⟩ := hnames v hn
    rw [hruns, List.mem_singleton] at hq
    rw [hq] at hrunning
    exact ⟨hrunning, hentering⟩
  · refine (hover 1 (by decide) first (by decide) (by decide)).1 ?_
    rw [htwo]
    decide

/-- Not every table of an execution that begins is noted on which another execution is open, though
labels differ and no table is listed twice: with one table, the third of three executions is told
nothing of the first when the second one has come and gone. -/
theorem open_run_overlooked :
    ¬∀ changes r, ((entrants (changes ++ [.enter r])).map (·.label)).Nodup →
      (∀ q ∈ entrants (changes ++ [.enter r]), q.tables.Nodup) →
        ∃ noted, (after (changes ++ [.enter r])).timeline.violations
            = (after changes).timeline.violations ++ noted ∧
          noted.map (·.table)
            = r.tables.filter (fun u => (after changes).runs.any (u ∈ ·.tables)) ∧
          ∀ v ∈ noted, ∃ q ∈ (after changes).runs, v.table ∈ q.tables ∧ v.running = q.label := by
  intro h
  let changes : List Change := [.enter ⟨1, "a", [1]⟩, .enter ⟨2, "b", [1]⟩, .exit 2]
  obtain ⟨noted, hv, htables, -⟩ := h changes ⟨3, "c", [1]⟩ (by decide) (by decide)
  have hbefore : (after changes).timeline.violations = [⟨1, "a", "b"⟩] := by decide
  have hafter : (after (changes ++ [.enter ⟨3, "c", [1]⟩])).timeline.violations
      = [⟨1, "a", "b"⟩] := by decide
  have hnone : noted = [] := by
    rw [hbefore, hafter] at hv
    exact List.self_eq_append_right.1 hv
  have hone : noted.map (·.table) = [1] := htables.trans (by decide)
  rw [hnone] at hone
  cases hone

end WatchedRuns

end QueryAdmission
