import Mathlib.Algebra.BigOperators.Finprod
import QueryAdmission.LockTable

/-!
# What sessions hold

A lock table in memory has one entry for each table that is locked (`LockTable.Distinct`), and its
entries stand in no order that means anything. What it tells of the owners does not depend on that
order (`LockTable.Distinct.owner_of_perm`, `LockTable.Distinct.locksHeld_of_perm`): the tables of a
session are listed by number, and each is listed for its owner alone, so that the lists of all
sessions together are as long as the lock table (`LockTable.finsum_length_locksHeld`).
-/

namespace QueryAdmission

namespace LockTable

variable {l l' : LockTable} {s : SessionId} {t : TableId}

/-- No table has two entries. -/
def Distinct (l : LockTable) : Prop := (l.owners.map (·.1)).Nodup

lemma distinct_empty : empty.Distinct := List.nodup_nil

lemma Distinct.attempt (h : l.Distinct) (s : SessionId) (t : TableId) :
    (l.attempt s t).2.Distinct := by
  unfold LockTable.attempt
  split
  · exact h
  · next hfree =>
    refine List.nodup_cons.2 ⟨fun hmem => ?_, h⟩
    obtain ⟨e, he, rfl⟩ := List.mem_map.1 hmem
    simpa using List.lookup_eq_none_iff.1 hfree e he

lemma Distinct.unlock (h : l.Distinct) (s : SessionId) (t : TableId) : (l.unlock s t).Distinct := by
  unfold LockTable.unlock
  split
  · exact h.sublist (List.filter_sublist.map _)
  · exact h

lemma Distinct.of_perm (h : l.Distinct) (hp : l'.owners.Perm l.owners) : l'.Distinct :=
  (hp.map _).nodup_iff.2 h

/-- The owner of a table is the one in its entry. -/
lemma Distinct.owner_eq_some_iff (h : l.Distinct) : l.owner t = some s ↔ (t, s) ∈ l.owners :=
  lookup_eq_some_iff_mem h

lemma Distinct.owner_of_perm (h : l.Distinct) (hp : l'.owners.Perm l.owners) : l'.owner = l.owner := by
  funext t
  ext s
  rw [(h.of_perm hp).owner_eq_some_iff, h.owner_eq_some_iff, hp.mem_iff]

/-! ### The tables of a session -/

lemma perm_locksHeld (l : LockTable) (s : SessionId) :
    (l.locksHeld s).Perm ((l.owners.filter (·.2 = s)).map (·.1)) := List.mergeSort_perm _ _

lemma Distinct.mem_locksHeld (h : l.Distinct) : t ∈ l.locksHeld s ↔ l.owner t = some s := by
  rw [(l.perm_locksHeld s).mem_iff, h.owner_eq_some_iff]
  simp

/-- The tables of a session are listed in strictly ascending order. -/
lemma Distinct.pairwise_locksHeld (h : l.Distinct) (s : SessionId) :
    (l.locksHeld s).Pairwise fun t u => t.number < u.number := by
  have hnodup : (l.locksHeld s).Nodup := by
    rw [(l.perm_locksHeld s).nodup_iff]
    exact h.sublist (List.filter_sublist.map _)
  have hsorted : (l.locksHeld s).Pairwise fun t u => decide (t.number ≤ u.number) = true := by
    refine List.pairwise_mergeSort (fun t u v htu huv => ?_) (fun t u => ?_) _
    · exact decide_eq_true ((of_decide_eq_true htu).trans (of_decide_eq_true huv))
    · rw [Bool.or_eq_true, decide_eq_true_iff, decide_eq_true_iff]
      exact Nat.le_total t.number u.number
  refine hsorted.imp₂ (fun t u hle hne => ?_) hnodup
  refine lt_of_le_of_ne (of_decide_eq_true hle) fun heq => hne ?_
  cases t
  cases u
  exact congrArg _ heq

lemma Distinct.locksHeld_of_perm (h : l.Distinct) (hp : l'.owners.Perm l.owners) (s : SessionId) :
    l'.locksHeld s = l.locksHeld s := by
  have hperm : (l'.locksHeld s).Perm (l.locksHeld s) :=
    calc (l'.locksHeld s).Perm ((l'.owners.filter (·.2 = s)).map (·.1)) := l'.perm_locksHeld s
      List.Perm _ ((l.owners.filter (·.2 = s)).map (·.1)) := (hp.filter _).map _
      List.Perm _ (l.locksHeld s) := (l.perm_locksHeld s).symm
  refine hperm.eq_of_pairwise ?_ ((h.of_perm hp).pairwise_locksHeld s) (h.pairwise_locksHeld s)
  intro t u _ _ htu hut
  exact absurd hut (Nat.lt_asymm htu)

/-- Each entry counts for its owner. -/
lemma length_locksHeld (l : LockTable) (s : SessionId) :
    (l.locksHeld s).length = (l.owners.map (·.2)).count s := by
  rw [(l.perm_locksHeld s).length_eq, List.length_map, List.count, List.countP_map,
    List.countP_eq_length_filter]
  rfl

/-- What the sessions hold are together all locks. -/
lemma finsum_length_locksHeld (l : LockTable) : ∑ᶠ s, (l.locksHeld s).length = l.size := by
  let owners := l.owners.map (·.2)
  calc ∑ᶠ s, (l.locksHeld s).length = ∑ᶠ s, owners.count s :=
        finsum_congr fun s => l.length_locksHeld s
    _ = ∑ s ∈ owners.toFinset, owners.count s := by
        refine finsum_eq_sum_of_support_subset _ fun s hs => ?_
        exact List.mem_toFinset.2 (List.count_pos_iff.1 (Nat.pos_of_ne_zero hs))
    _ = owners.length := owners.sum_toFinset_count_eq_length
    _ = l.size := List.length_map _

end LockTable

end QueryAdmission
