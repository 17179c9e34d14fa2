import Mathlib.Data.List.Basic
import Mathlib.Data.List.Infix
import Mathlib.Data.List.Induction
import QueryAdmission.Proofs.Holdings

/-!
# Who owns a table, and for how long

Who owns a table can be told from what was asked for, without the lock table: it is the session that
was the first to try since the table was last free (`LockTable.LastFree.owner_eq`). From then on the
table is its own, however often it tries again and whatever others try, until it gives the table back
(`LockTable.owner_append`). What the lock table lists is the same at every moment
(`LockTable.owned_since_free`).
-/

namespace QueryAdmission

namespace LockTable

/-- An operation on a lock table. -/
inductive Op where
  | attempt (session : SessionId) (table : TableId)
  | unlock (session : SessionId) (table : TableId)
  deriving DecidableEq, Repr

/-- The session that an operation is for. -/
def Op.session : Op → SessionId
  | attempt s _ | unlock s _ => s

/-- Whether the operation tries to lock the table. -/
def Op.triesOn (t : TableId) : Op → Bool
  | attempt _ u => u = t
  | unlock _ _ => false

/-- What an operation leaves. -/
def apply (l : LockTable) : Op → LockTable
  | .attempt s t => (l.attempt s t).2
  | .unlock s t => l.unlock s t

/-- What is locked after these operations, if nothing was before. -/
def after (ops : List Op) : LockTable := ops.foldl apply empty

/-- The table was free after the earlier operations, and at no moment of the later ones. -/
structure LastFree (t : TableId) (earlier later : List Op) : Prop where
  free : (after earlier).owner t = none
  taken : ∀ ops, ops <+: later → ops ≠ [] → (after (earlier ++ ops)).owner t ≠ none

variable {l : LockTable} {s : SessionId} {t : TableId} {earlier later : List Op}

/-! ### One operation -/

/-- A free table goes to whoever tries. -/
lemma owner_apply_of_free (h : l.owner t = none) (op : Op) :
    (l.apply op).owner t = if op.triesOn t then some op.session else none := by
  cases op with
  | attempt o u =>
    rw [apply, owner_attempt, Op.triesOn]
    by_cases hu : u = t
    · subst hu
      simp [h, Op.session]
    · simp [hu, Ne.symm hu, h]
  | unlock o u =>
    rw [apply, owner_unlock, Op.triesOn, h]
    simp

/-- A table that has an owner is freed by the owner, and by nothing else. -/
lemma owner_apply_of_owned (h : l.owner t = some s) (op : Op) :
    (l.apply op).owner t = if op = .unlock s t then none else some s := by
  cases op with
  | attempt o u =>
    rw [apply, owner_attempt, if_neg, h, if_neg nofun]
    rintro ⟨rfl, hfree⟩
    rw [h] at hfree
    cases hfree
  | unlock o u =>
    rw [apply, owner_unlock, h]
    by_cases hu : t = u
    · subst hu
      simp [h, eq_comm]
    · simp [hu, Ne.symm hu]

lemma Distinct.apply (h : l.Distinct) (op : Op) : (l.apply op).Distinct := by
  cases op with
  | attempt s t => exact h.attempt s t
  | unlock s t => exact h.unlock s t

/-! ### All operations so far -/

lemma after_concat (ops : List Op) (op : Op) : after (ops ++ [op]) = (after ops).apply op :=
  List.foldl_concat apply empty op ops

lemma distinct_after (ops : List Op) : (after ops).Distinct := by
  induction ops using List.reverseRecOn with
  | nil => exact distinct_empty
  | append_singleton ops op ih =>
    rw [after_concat]
    exact ih.apply op

lemma lastFree_nil (h : (after earlier).owner t = none) : LastFree t earlier [] :=
  ⟨h, fun _ hops hne => absurd (List.prefix_nil.1 hops) hne⟩

/-- There was a moment at which the table was last free, since it was free at first. -/
lemma exists_lastFree (ops : List Op) (t : TableId) :
    ∃ earlier later, ops = earlier ++ later ∧ LastFree t earlier later := by
  induction ops using List.reverseRecOn with
  | nil => exact ⟨[], [], rfl, lastFree_nil rfl⟩
  | append_singleton ops op ih =>
    obtain ⟨earlier, later, rfl, h⟩ := ih
    by_cases hfree : (after (earlier ++ later ++ [op])).owner t = none
    · exact ⟨earlier ++ later ++ [op], [], (List.append_nil _).symm, lastFree_nil hfree⟩
    · refine ⟨earlier, later ++ [op], List.append_assoc _ _ _, h.free, fun ops hops hne => ?_⟩
      rcases List.prefix_concat_iff.1 hops with rfl | hops
      · rwa [← List.append_assoc]
      · exact h.taken ops hops hne

/-- The owner is the first to have tried since the table was last free. -/
lemma LastFree.owner_eq (h : LastFree t earlier later) :
    (after (earlier ++ later)).owner t = (later.find? (·.triesOn t)).map (·.session) := by
  induction later using List.reverseRecOn with
  | nil =>
    rw [List.append_nil]
    exact h.free
  | append_singleton later op ih =>
    have htaken : ((after (earlier ++ later)).apply op).owner t ≠ none := by
      rw [← after_concat, List.append_assoc]
      exact h.taken _ (List.prefix_refl _) (List.concat_ne_nil op later)
    rw [← List.append_assoc, after_concat, List.find?_append]
    rcases List.eq_nil_or_concat later with rfl | ⟨first, last, hlater⟩
    · -- The table is taken by the very first operation.
      rw [List.append_nil] at htaken ⊢
      rw [owner_apply_of_free h.free] at htaken ⊢
      split_ifs at htaken ⊢ with htries
      · simp [htries]
      · exact absurd rfl htaken
    · have hlast : LastFree t earlier later :=
        ⟨h.free, fun ops hops hne => h.taken ops (hops.trans (List.prefix_append _ _)) hne⟩
      obtain ⟨s, hs⟩ : ∃ s, (after (earlier ++ later)).owner t = some s :=
        Option.ne_none_iff_exists'.1 (hlast.taken later (List.prefix_refl _) (by simp [hlater]))
      have hfirst := ih hlast
      rw [hs] at hfirst
      rw [owner_apply_of_owned hs] at htaken ⊢
      split_ifs at htaken ⊢
      · exact absurd rfl htaken
      · obtain ⟨first, hfind, hsession⟩ := Option.map_eq_some_iff.1 hfirst.symm
        rw [hfind, Option.some_or, Option.map_some, hsession]

/-- Who owns a table keeps it until it gives the table back, whatever happens besides. -/
lemma owner_append {ops : List Op} (h : (after ops).owner t = some s)
    (hlater : Op.unlock s t ∉ later) : (after (ops ++ later)).owner t = some s := by
  induction later using List.reverseRecOn with
  | nil => rwa [List.append_nil]
  | append_singleton later op ih =>
    rw [List.mem_append, not_or, List.mem_singleton] at hlater
    rw [← List.append_assoc, after_concat, owner_apply_of_owned (ih hlater.1),
      if_neg (Ne.symm hlater.2)]

/-- The second session tries in vain, and gives back what it does not own. -/
example :
    let l := after [.attempt 1 10, .attempt 2 10, .attempt 1 10, .attempt 1 3, .unlock 2 10]
    l.owner 10 = some 1 ∧ l.locksHeld 1 = [3, 10] ∧ l.locksHeld 2 = [] ∧ l.size = 2 := by
  cbv

end LockTable

end QueryAdmission
