import QueryAdmission.Proofs.AllOrNothing

/-!
# A lock pass by itself

A lock pass between whose contacts nothing else happens to the host (`LockPass.run`) is atomic: it
takes every table of its list that is free, or it leaves the lock table as it was, for the sake of
the first table that another session owns (`LockPass.run_atomic`). What was taken stands in the lock
table before what was there, the last table first, so that giving the tables back in the opposite
order undoes the pass step by step.
-/

namespace QueryAdmission

/-! ### Calls that nobody disturbs -/

section Undisturbed

variable {σ γ ρ : Type} [Catalogue σ] [Locking σ] [Stepping γ ρ] {w w' : World σ} {c c' : γ} {r : ρ}

lemma runUntilAsleep_next (h : Stepping.step w c = (w', .next c')) (fuel : Nat) :
    runUntilAsleep (fuel + 1) w c = runUntilAsleep fuel w' c' := by
  rw [runUntilAsleep, h]

lemma runUntilAsleep_sleep (h : Stepping.step w c = (w', .sleep c')) (fuel : Nat) :
    runUntilAsleep (fuel + 1) w c = (w', .inl c') := by
  rw [runUntilAsleep, h]

lemma runUntilAsleep_done (h : Stepping.step w c = (w', .done r)) (fuel : Nat) :
    runUntilAsleep (fuel + 1) w c = (w', .inr r) := by
  rw [runUntilAsleep, h]

end Undisturbed

/-! ### Tables taken and given back -/

namespace LockTable

variable {l : LockTable} {s : SessionId} {tables taken : List TableId} {t : TableId}

/-- Give tables of the session back, the last one first. -/
def release (l : LockTable) (s : SessionId) (tables : List TableId) : LockTable :=
  tables.foldr (fun t l => l.unlock s t) l

/-- Whether the table is another session's. -/
def isForeign (l : LockTable) (s : SessionId) (t : TableId) : Bool := (l.owner t).any (· ≠ s)

lemma isForeign_eq_false : l.isForeign s t = false ↔ l.owner t = none ∨ l.owner t = some s := by
  rw [isForeign]
  cases l.owner t <;> simp

/-- The session has taken these tables, the last one first. -/
def gain (l : LockTable) (s : SessionId) (taken : List TableId) : LockTable :=
  ⟨taken.map (·, s) ++ l.owners⟩

lemma gain_nil (l : LockTable) (s : SessionId) : l.gain s [] = l := rfl

lemma owner_gain (l : LockTable) (s : SessionId) (taken : List TableId) (t : TableId) :
    (l.gain s taken).owner t = if t ∈ taken then some s else l.owner t := by
  induction taken with
  | nil => simp [gain_nil]
  | cons u taken ih =>
    have hcons : (l.gain s (u :: taken)).owner t
        = if t = u then some s else (l.gain s taken).owner t := lookup_cons_eq_ite u t s _
    rw [hcons, ih]
    by_cases hu : t = u <;> simp [hu]

lemma attempt_gain (h : (l.gain s taken).owner t = none) :
    (l.gain s taken).attempt s t = (true, l.gain s (t :: taken)) := by
  rw [attempt, h]
  rfl

/-- A table that was free is given back just as it was taken. -/
lemma unlock_gain (hfree : l.owner t = none) (ht : t ∉ taken) :
    (l.gain s (t :: taken)).unlock s t = l.gain s taken := by
  have howner : (l.gain s (t :: taken)).owner t = some s := by simp [owner_gain]
  have hold : ∀ e ∈ l.owners, e.1 ≠ t := by
    intro e he hte
    have hne := List.lookup_eq_none_iff.1 hfree e he
    simp [hte] at hne
  have hnew : ∀ e ∈ taken.map (·, s), e.1 ≠ t := by
    intro e he
    obtain ⟨u, hu, rfl⟩ := List.mem_map.1 he
    exact fun hut => ht (hut ▸ hu)
  have hkept : (taken.map (·, s) ++ l.owners).filter (·.1 ≠ t) = taken.map (·, s) ++ l.owners := by
    rw [List.filter_eq_self]
    intro e he
    rcases List.mem_append.1 he with he | he
    · simpa using hnew e he
    · simpa using hold e he
  rw [unlock, if_pos howner]
  show LockTable.mk (((t, s) :: (taken.map (·, s) ++ l.owners)).filter (·.1 ≠ t)) = _
  rw [List.filter_cons_of_neg (by simp), hkept]
  rfl

/-- Tables that were free are given back just as they were taken. -/
lemma release_gain (hfree : ∀ t ∈ taken, l.owner t = none) (hn : taken.Nodup) :
    (l.gain s taken).release s taken.reverse = l := by
  induction taken with
  | nil => rfl
  | cons t taken ih =>
    obtain ⟨ht, hn⟩ := List.nodup_cons.1 hn
    rw [release, List.reverse_cons, List.foldr_append, List.foldr_cons, List.foldr_nil,
      unlock_gain (hfree t List.mem_cons_self) ht]
    exact ih (fun u hu => hfree u (List.mem_cons_of_mem t hu)) hn

lemma owner_release (l : LockTable) (s : SessionId) (tables : List TableId) (u : TableId) :
    (l.release s tables).owner u
      = if u ∈ tables ∧ l.owner u = some s then none else l.owner u := by
  induction tables with
  | nil => simp [release]
  | cons t tables ih =>
    have hcons : l.release s (t :: tables) = (l.release s tables).unlock s t := rfl
    rw [hcons, owner_unlock, ih]
    by_cases hu : u = t
    · subst hu
      by_cases ho : l.owner u = some s <;> simp [ih, ho]
    · simp [hu]

/-- The tables that a session lacks stand in the order in which they are first mentioned. -/
lemma pairwise_missing : (l.missing s tables).Pairwise (tables.idxOf · < tables.idxOf ·) := by
  induction tables using List.reverseRecOn with
  | nil => exact .nil
  | append_singleton tables t ih =>
    have hmem {u : TableId} (hu : u ∈ l.missing s tables) : u ∈ tables := (mem_missing.1 hu).1
    have hidx {u : TableId} (hu : u ∈ l.missing s tables) :
        (tables ++ [t]).idxOf u = tables.idxOf u := List.idxOf_append_of_mem (hmem hu)
    have hbefore : (l.missing s tables).Pairwise
        ((tables ++ [t]).idxOf · < (tables ++ [t]).idxOf ·) := by
      refine ih.imp_of_mem fun hu hv huv => ?_
      rwa [hidx hu, hidx hv]
    rw [missing_concat]
    split_ifs with ho
    · exact hbefore
    · by_cases ht : t ∈ l.missing s tables
      · rwa [addTable, if_pos ht]
      · rw [addTable, if_neg ht, List.pairwise_append]
        refine ⟨hbefore, List.pairwise_singleton _ _, fun u hu v hv => ?_⟩
        have hnew : t ∉ tables := fun hm => ht (mem_missing.2 ⟨hm, ho⟩)
        rw [List.mem_singleton.1 hv, hidx hu, List.idxOf_append_of_notMem hnew]
        have hlt := List.idxOf_lt_length_of_mem (hmem hu)
        omega

end LockTable

/-! ### The pass -/

namespace MemoryHost

/-- The host after a pass that is done with these tables, of which nobody else owns one. -/
def after (h : MemoryHost) (s : SessionId) (done : List TableId) : MemoryHost :=
  { h with locks := h.locks.gain s (h.locks.missing s done).reverse }

end MemoryHost

namespace LockPass

variable {s : SessionId} {h : MemoryHost} {p : LockPass} {t : TableId}
  {before left taken tables : List TableId}

lemma run_step (hp : 0 < p.remaining) :
    LockPass.run s h p = LockPass.run s (p.step s h).1 (p.step s h).2 := by
  rw [LockPass.run, if_pos hp]

lemma run_took : LockPass.run s h (took tables) = (h, took tables) := by
  rw [LockPass.run]
  exact if_neg (Nat.lt_irrefl 0)

lemma run_refusedAt : LockPass.run s h (refusedAt t) = (h, refusedAt t) := by
  rw [LockPass.run]
  exact if_neg (Nat.lt_irrefl 0)

/-- A table that the session owns is passed over. -/
lemma run_owned (ho : h.locks.owner t = some s) :
    LockPass.run s h (proceed (t :: left) taken) = LockPass.run s h (proceed left taken) := by
  have hstep : (asking t left taken).step s h = (h, proceed left taken) := by
    simp [step, Locking.held, LockTable.held, ho]
  rw [proceed, run_step (by simp [remaining]), hstep]

/-- A table that the session does not own is attempted. -/
lemma run_lacked (ho : h.locks.owner t ≠ some s) :
    LockPass.run s h (proceed (t :: left) taken) = LockPass.run s h (attempting t left taken) := by
  have hstep : (asking t left taken).step s h = (h, attempting t left taken) := by
    simp [step, Locking.held, LockTable.held, ho]
  rw [proceed, run_step (by simp [remaining]), hstep]

/-- Once a table is refused, all that was taken is given back. -/
lemma run_undo (hfree : ∀ u ∈ taken, h.locks.owner u = none) (hn : taken.Nodup) (t : TableId) :
    LockPass.run s { h with locks := h.locks.gain s taken } (undo t taken) = (h, refusedAt t) := by
  induction taken with
  | nil => exact run_refusedAt
  | cons u taken ih =>
    obtain ⟨hu, hn⟩ := List.nodup_cons.1 hn
    have hstep : (undo t (u :: taken)).step s { h with locks := h.locks.gain s (u :: taken) }
        = ({ h with locks := h.locks.gain s taken }, undo t taken) := by
      rw [← LockTable.unlock_gain (s := s) (hfree u List.mem_cons_self) hu]
      rfl
    rw [run_step (by simp [undo, remaining]), hstep]
    exact ih (fun v hv => hfree v (List.mem_cons_of_mem u hv)) hn

section Next

variable (hbefore : ∀ u ∈ before, h.locks.isForeign s u = false)

include hbefore

/-- Without foreign tables, those that a session lacks are free. -/
lemma owner_of_mem_missing {u : TableId} (hu : u ∈ h.locks.missing s before) :
    h.locks.owner u = none := by
  obtain ⟨hm, ho⟩ := LockTable.mem_missing.1 hu
  exact (LockTable.isForeign_eq_false.1 (hbefore u hm)).resolve_right ho

/-- At a table that another session owns, the pass goes back to where it began. -/
lemma run_foreign (ht : h.locks.isForeign s t) (left : List TableId) :
    LockPass.run s (h.after s before) (proceed (t :: left) (h.locks.missing s before).reverse)
      = (h, refusedAt t) := by
  have hfree : ∀ u ∈ (h.locks.missing s before).reverse, h.locks.owner u = none :=
    fun u hu => owner_of_mem_missing hbefore (List.mem_reverse.1 hu)
  obtain ⟨o, ho, hos⟩ : ∃ o, h.locks.owner t = some o ∧ o ≠ s := by
    simpa [LockTable.isForeign, Option.any_eq_true] using ht
  have hnot : t ∉ (h.locks.missing s before).reverse := fun hm => by
    rw [hfree t hm] at ho
    cases ho
  have howner : (h.after s before).locks.owner t = some o := by
    show (LockTable.gain _ _ _).owner t = _
    rw [LockTable.owner_gain, if_neg hnot, ho]
  have hattempt : (h.after s before).locks.attempt s t = (false, (h.after s before).locks) := by
    simp [LockTable.attempt, howner, hos]
  have hstep : (attempting t left (h.locks.missing s before).reverse).step s (h.after s before)
      = (h.after s before, undo t (h.locks.missing s before).reverse) := by
    simp [step, Locking.attempt, hattempt]
  rw [run_lacked (by simp [howner, hos]), run_step (by simp [remaining]), hstep]
  exact run_undo hfree (List.nodup_reverse.2 LockTable.nodup_missing) t

omit hbefore

/-- A table that nobody else owns is passed over or taken. -/
lemma run_next (ht : h.locks.isForeign s t = false) (before left : List TableId) :
    LockPass.run s (h.after s before) (proceed (t :: left) (h.locks.missing s before).reverse)
      = LockPass.run s (h.after s (before ++ [t]))
          (proceed left (h.locks.missing s (before ++ [t])).reverse) := by
  have howner : (h.after s before).locks.owner t
      = if t ∈ h.locks.missing s before then some s else h.locks.owner t := by
    show (LockTable.gain _ _ _).owner t = _
    rw [LockTable.owner_gain]
    simp only [List.mem_reverse]
  by_cases hskip : (h.after s before).locks.owner t = some s
  -- The session had the table before the pass, or has taken it at an earlier mention.
  · have hmissing : h.locks.missing s (before ++ [t]) = h.locks.missing s before := by
      rw [LockTable.missing_concat]
      split_ifs with ho
      · rfl
      · rw [addTable, if_pos]
        by_contra hm
        rw [howner, if_neg hm] at hskip
        exact ho hskip
    rw [run_owned hskip, MemoryHost.after, MemoryHost.after, hmissing]
  · have hm : t ∉ h.locks.missing s before := fun hm => hskip (by rw [howner, if_pos hm])
    rw [howner, if_neg hm] at hskip
    have hfree : h.locks.owner t = none := (LockTable.isForeign_eq_false.1 ht).resolve_right hskip
    have hmissing : h.locks.missing s (before ++ [t]) = h.locks.missing s before ++ [t] := by
      rw [LockTable.missing_concat, if_neg hskip, addTable, if_neg hm]
    have hattempt : (h.after s before).locks.attempt s t
        = (true, (h.after s (before ++ [t])).locks) := by
      rw [MemoryHost.after, LockTable.attempt_gain, MemoryHost.after, hmissing,
        List.reverse_concat]
      rw [LockTable.owner_gain, if_neg (by simpa using hm), hfree]
    have hstep : (attempting t left (h.locks.missing s before).reverse).step s (h.after s before)
        = (h.after s (before ++ [t]),
          proceed left (h.locks.missing s (before ++ [t])).reverse) := by
      simp only [step, Locking.attempt, hattempt]
      rw [hmissing, List.reverse_concat]
      rfl
    rw [run_lacked (by simp [howner, hm, hfree]), run_step (by simp [remaining]), hstep]

end Next

/-- A pass is done with the first tables of its list, if nobody else owns one. -/
lemma run_ofTables_append (hbefore : ∀ u ∈ before, h.locks.isForeign s u = false)
    (left : List TableId) :
    LockPass.run s h (ofTables (before ++ left))
      = LockPass.run s (h.after s before) (proceed left (h.locks.missing s before).reverse) := by
  -- From the end, because the host in the middle of a pass is told by what is done.
  induction before using List.reverseRecOn generalizing left with
  | nil => rfl
  | append_singleton before t ih =>
    rw [List.append_assoc, List.singleton_append,
      ih (fun u hu => hbefore u (List.mem_append_left [t] hu)),
      run_next (hbefore t (List.mem_append_right before (List.mem_singleton_self t)))]

/-- On a host in memory with whatever locks, a pass that nothing comes between: if a table of the
list is another session's, it is refused the first such table, and the host is as it was. Otherwise
it takes the tables of the list that were free, each once and in the order of first mention; it
changes the owner of no other table; and the host is as it was when they are given back. -/
theorem run_atomic (h : MemoryHost) (s : SessionId) (tables : List TableId) :
    match tables.find? (h.locks.isForeign s) with
    | some t => LockPass.run s h (ofTables tables) = (h, refusedAt t)
    | none => ∃ acquired locks,
        LockPass.run s h (ofTables tables) = ({ h with locks }, took acquired) ∧
          acquired.Nodup ∧ (∀ t, t ∈ acquired ↔ t ∈ tables ∧ h.locks.owner t = none) ∧
          acquired.Pairwise (tables.idxOf · < tables.idxOf ·) ∧
          (∀ u, locks.owner u = if u ∈ acquired then some s else h.locks.owner u) ∧
          locks.release s acquired = h.locks := by
  split
  · next t hfind =>
    obtain ⟨ht, before, left, rfl, hbefore⟩ := List.find?_eq_some_iff_append.1 hfind
    have hbefore : ∀ u ∈ before, h.locks.isForeign s u = false := by simpa using hbefore
    rw [run_ofTables_append hbefore]
    exact run_foreign hbefore ht left
  · next hfind =>
    have hown : ∀ u ∈ tables, h.locks.isForeign s u = false := by
      simpa using List.find?_eq_none.1 hfind
    have hrun := run_ofTables_append hown []
    rw [List.append_nil, proceed, run_took, List.reverse_reverse] at hrun
    refine ⟨_, _, hrun, LockTable.nodup_missing, fun t => ?_, LockTable.pairwise_missing, fun u => ?_,
      ?_⟩
    · constructor
      · exact fun ht => ⟨(LockTable.mem_missing.1 ht).1, owner_of_mem_missing hown ht⟩
      · rintro ⟨ht, ho⟩
        exact LockTable.mem_missing.2 ⟨ht, by simp [ho]⟩
    · rw [LockTable.owner_gain]
      simp only [List.mem_reverse]
    · have hfree : ∀ t ∈ (h.locks.missing s tables).reverse, h.locks.owner t = none :=
        fun t ht => owner_of_mem_missing hown (List.mem_reverse.1 ht)
      have hback := LockTable.release_gain (s := s) hfree
        (List.nodup_reverse.2 LockTable.nodup_missing)
      rwa [List.reverse_reverse] at hback

/-- Session 1 owns table 1, and session 2 owns table 3. Of tables 1, 2, 4 and 2 again, session 1
takes 2 and 4; with table 3 on the list, it takes none. -/
theorem run_atomic_held :
    let h : MemoryHost := ⟨.empty, ⟨[(1, 1), (3, 2)]⟩⟩
    LockPass.run 1 h (ofTables [2, 1, 3, 4]) = (h, refusedAt 3) ∧
      ∃ acquired locks,
        LockPass.run 1 h (ofTables [1, 2, 4, 2]) = ({ h with locks }, took acquired) ∧
          (∀ t, t ∈ acquired ↔ t = 2 ∨ t = 4) ∧ locks.owner 1 = some 1 ∧ locks.owner 3 = some 2 ∧
          locks.release 1 acquired = h.locks := by
  intro h
  have hrefused : LockPass.run 1 h (ofTables [2, 1, 3, 4]) = (h, refusedAt 3) :=
    run_atomic h 1 [2, 1, 3, 4]
  obtain ⟨acquired, locks, hrun, -, hmem, -, howner, hback⟩ := run_atomic h 1 [1, 2, 4, 2]
  have hacquired (t : TableId) : t ∈ acquired ↔ t = 2 ∨ t = 4 := by
    rw [hmem]
    constructor
    · rintro ⟨ht, hfree⟩
      have hcases : t = 1 ∨ t = 2 ∨ t = 4 ∨ t = 2 := by simpa using ht
      rcases hcases with rfl | rfl | rfl | rfl
      · cases hfree
      · exact .inl rfl
      · exact .inr rfl
      · exact .inl rfl
    · rintro (rfl | rfl) <;> decide
  have hold (t : TableId) (ht : ¬(t = 2 ∨ t = 4)) : locks.owner t = h.locks.owner t := by
    rw [howner, if_neg ((hacquired t).not.2 ht)]
  exact ⟨hrefused, acquired, locks, hrun, hacquired, hold 1 (by decide), hold 3 (by decide), hback⟩

end LockPass

/-! ### The pass of an admission -/

/-- An admission that nobody disturbs during its lock pass comes to where the pass comes by itself.
-/
lemma Admission.runUntilAsleep_locking (w : World MemoryHost) (a : Admission) {p : LockPass}
    (ha : a.phase = .locking p) :
    ∃ n, ∀ fuel, runUntilAsleep (n + fuel) w a
      = runUntilAsleep fuel { w with host := (LockPass.run a.key.session w.host p).1 }
          (a.inPhase (.locking (LockPass.run a.key.session w.host p).2)) := by
  induction hr : p.remaining using Nat.strong_induction_on generalizing w a p with
  | _ r ih =>
    subst hr
    by_cases hp : 0 < p.remaining
    · have hstep : a.advance w = ({ w with host := (p.step a.key.session w.host).1 },
          .next (a.inPhase (.locking (p.step a.key.session w.host).2))) := by
        cases p with
        | asking | attempting | undoing => simp only [advance, ha]
        | took | refusedAt => exact absurd hp (Nat.lt_irrefl 0)
      obtain ⟨n, hn⟩ := ih _ (LockPass.remaining_step a.key.session w.host hp)
        { w with host := (p.step a.key.session w.host).1 }
        (a.inPhase (.locking (p.step a.key.session w.host).2)) rfl rfl
      refine ⟨n + 1, fun fuel => ?_⟩
      rw [Nat.add_right_comm, LockPass.run_step hp, runUntilAsleep_next hstep]
      exact hn fuel
    · refine ⟨0, fun fuel => ?_⟩
      have hself : a.inPhase (.locking p) = a := by rw [← ha]; rfl
      rw [LockPass.run, if_neg hp, Nat.zero_add, hself]

end QueryAdmission
