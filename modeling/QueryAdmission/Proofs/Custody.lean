import Mathlib.Algebra.Order.Group.Nat
import Mathlib.Data.List.Count
import QueryAdmission.Call.LockPass

/-!
# Whose hands a table is in

A session owns a table once or not at all (`share`). A lock pass takes tables into its hands and
gives them back out of its hands, and changes nothing else: at every contact with the host, what the
session owns more is what the pass has in its hands more (`Contact.share_eq`), and nobody else owns
more or less (`Contact.apart`).
-/

namespace QueryAdmission

namespace LockTable

variable {l l' l'' : LockTable} {s : SessionId} {t u : TableId}

/-- How often the session owns the table: once, or not at all. -/
def share (l : LockTable) (s : SessionId) (t : TableId) : Nat := if l.owner t = some s then 1 else 0

lemma share_pos : 0 < l.share s t ↔ l.owner t = some s := by
  rw [share]
  split_ifs with h <;> simp [h]

lemma share_eq_zero : l.share s t = 0 ↔ l.owner t ≠ some s := by
  rw [ne_eq, ← share_pos, Nat.pos_iff_ne_zero, not_not]

lemma share_le_one (l : LockTable) (s : SessionId) (t : TableId) : l.share s t ≤ 1 := by
  rw [share]
  split_ifs <;> omega

/-- Nobody but the session owns more or less in the second table of locks than in the first. -/
def Apart (s : SessionId) (l l' : LockTable) : Prop :=
  ∀ t o, o ≠ s → (l'.owner t = some o ↔ l.owner t = some o)

@[refl] lemma Apart.refl (s : SessionId) (l : LockTable) : Apart s l l := fun _ _ _ => Iff.rfl

/-- A free table comes into the hands of the session that takes it. -/
lemma share_attempt (h : l.owner t = none) (taken : List TableId) :
    (l.attempt s t).2.share s u + taken.count u = l.share s u + (t :: taken).count u := by
  unfold share
  rw [owner_attempt, List.count_cons]
  by_cases hu : u = t
  · subst hu
    simp [h, Nat.add_comm]
  · simp [hu, Ne.symm hu]

/-- A table goes out of the hands of the session that gives it back. -/
lemma share_unlock (h : l.owner t = some s) (left : List TableId) :
    (l.unlock s t).share s u + (t :: left).count u = l.share s u + left.count u := by
  unfold share
  rw [owner_unlock, List.count_cons]
  by_cases hu : u = t
  · subst hu
    simp [h, Nat.add_comm]
  · simp [hu, Ne.symm hu]

lemma apart_attempt (l : LockTable) (s : SessionId) (t : TableId) :
    Apart s l (l.attempt s t).2 := by
  intro u o ho
  rw [owner_attempt]
  split_ifs with h
  · rw [h.1, h.2]
    simp [Ne.symm ho]
  · rfl

lemma apart_unlock (l : LockTable) (s : SessionId) (t : TableId) : Apart s l (l.unlock s t) := by
  intro u o ho
  rw [owner_unlock]
  split_ifs with h
  · rw [h.1, h.2]
    simp [Ne.symm ho]
  · rfl

lemma owner_of_unlock {o : SessionId} (h : (l.unlock s t).owner u = some o) :
    l.owner u = some o := by
  rw [owner_unlock] at h
  split_ifs at h
  exact h

end LockTable

namespace LockPass

variable {s : SessionId} {l l' : LockTable} {p p' : LockPass}

/-- The tables that a pass has in its hands. -/
def taken : LockPass → List TableId
  | asking _ _ taken | attempting _ _ taken => taken
  | undoing t left _ => t :: left
  | took tables => tables
  | refusedAt _ => []

lemma count_taken_proceed (left taken : List TableId) (u : TableId) :
    (proceed left taken).taken.count u = taken.count u := by
  cases left with
  | nil => exact List.count_reverse
  | cons t left => rfl

@[simp] lemma taken_undo (refused : TableId) (taken : List TableId) :
    (undo refused taken).taken = taken := by
  cases taken <;> rfl

@[simp] lemma taken_ofTables (tables : List TableId) : (ofTables tables).taken = [] := by
  cases tables <;> rfl

/-- The contacts that a pass makes with a lock table. -/
inductive Contact (s : SessionId) (l : LockTable) : LockPass → LockTable → LockPass → Prop
  | skipped {t : TableId} {left taken : List TableId} (h : l.owner t = some s) :
      Contact s l (asking t left taken) l (proceed left taken)
  | asked {t : TableId} {left taken : List TableId} (h : l.owner t ≠ some s) :
      Contact s l (asking t left taken) l (attempting t left taken)
  | locked {t : TableId} {left taken : List TableId} (h : l.owner t = none ∨ l.owner t = some s) :
      Contact s l (attempting t left taken) (l.attempt s t).2 (proceed left (t :: taken))
  | refused {t : TableId} {left taken : List TableId} (h : l.owner t ≠ some s) :
      Contact s l (attempting t left taken) l (undo t taken)
  | returned {t refused : TableId} {left : List TableId} :
      Contact s l (undoing t left refused) (l.unlock s t) (undo refused left)

lemma contact_step (s : SessionId) (h : MemoryHost) (hp : 0 < p.remaining) :
    (p.step s h).1 = { h with locks := (p.step s h).1.locks } ∧
      Contact s h.locks p (p.step s h).1.locks (p.step s h).2 := by
  cases p with
  | asking t left taken =>
    by_cases ho : h.locks.owner t = some s
    · have hs : (asking t left taken).step s h = (h, proceed left taken) := by
        simp [step, Locking.held, LockTable.held, ho]
      rw [hs]
      exact ⟨rfl, .skipped ho⟩
    · have hs : (asking t left taken).step s h = (h, attempting t left taken) := by
        simp [step, Locking.held, LockTable.held, ho]
      rw [hs]
      exact ⟨rfl, .asked ho⟩
  | attempting t left taken =>
    have hf := LockTable.fst_attempt h.locks s t
    rcases ha : h.locks.attempt s t with ⟨_ | _, locks⟩
    · have hl : locks = h.locks := by
        rw [LockTable.attempt] at ha
        split at ha
        · exact (Prod.mk.inj ha).2.symm
        · cases ha
      rw [ha] at hf
      have hs : (attempting t left taken).step s h = (h, undo t taken) := by
        simp [step, Locking.attempt, ha, hl]
      rw [hs]
      exact ⟨rfl, .refused fun ho => absurd (hf.2 (.inr ho)) Bool.false_ne_true⟩
    · have hs : (attempting t left taken).step s h
          = ({ h with locks }, proceed left (t :: taken)) := by
        simp [step, Locking.attempt, ha]
      have hl : locks = (h.locks.attempt s t).2 := by rw [ha]
      rw [hs, hl]
      refine ⟨rfl, .locked (hf.1 ?_)⟩
      rw [ha]
  | undoing t left refused => exact ⟨rfl, .returned⟩
  | took tables => exact absurd hp (Nat.lt_irrefl 0)
  | refusedAt t => exact absurd hp (Nat.lt_irrefl 0)

/-- A pass whose session owns what the pass has in its hands, and does not own what the pass is
about to take. -/
structure Fair (s : SessionId) (l : LockTable) (p : LockPass) : Prop where
  owns : ∀ t ∈ p.taken, l.owner t = some s
  lacks : ∀ t left taken, p = attempting t left taken → l.owner t ≠ some s

/-- At a contact, what the session owns more is what the pass has in its hands more. -/
lemma Contact.share_eq (h : Contact s l p l' p') (hp : p.Fair s l) (u : TableId) :
    l'.share s u + p.taken.count u = l.share s u + p'.taken.count u := by
  cases h with
  | @skipped t left taken =>
    rw [count_taken_proceed]
    rfl
  | asked => rfl
  | @locked t left taken ho =>
    have ho : l.owner t = none := ho.resolve_right (hp.lacks t left taken rfl)
    rw [count_taken_proceed]
    exact LockTable.share_attempt ho taken
  | refused =>
    rw [taken_undo]
    rfl
  | @returned t refused left =>
    rw [taken_undo]
    exact LockTable.share_unlock (hp.owns t List.mem_cons_self) left

lemma Contact.apart (h : Contact s l p l' p') : LockTable.Apart s l l' := by
  cases h with
  | skipped | asked | refused => rfl
  | locked => exact l.apart_attempt s _
  | returned => exact l.apart_unlock s _

end LockPass

end QueryAdmission
