import Mathlib.Data.List.Induction
import QueryAdmission.Proofs.Registration

/-!
# The roster in order

A roster is not sorted by anybody: it is in the order of arrival because whoever is new is put last,
and whoever leaves takes nobody else along. This is said here of every sequence of the roster's own
operations (`Roster.Op`), from an empty roster on. Whatever was removed or refused before, the
newcomers are numbered one after the other (`Roster.newcomers_numbered`), and records leave so that
the others stay where and as they were (`Roster.Parts`).

The records of a session leave at once. That is the same as when their keys are removed one by one
(`Roster.Ranked.removeEach_eq_removeSession`).
-/

namespace QueryAdmission

namespace Roster

/-- An operation on a roster. -/
inductive Op where
  | register (key : QueryKey) (affected : List ViewId) (transaction : TransactionId)
  | remove (key : QueryKey)
  | removeSession (session : SessionId)
  | setStatus (key : QueryKey) (status : Status)
  /-- Every record is given a status, which may be its own. -/
  | restate (status : Record → Status)

/-- What an operation leaves. -/
def apply (r : Roster) : Op → Roster
  | .register key affected transaction =>
    match r.register key affected transaction with
    | .ok (_, r') => r'
    | .error _ => r
  | .remove key => (r.remove key).2
  | .removeSession session => (r.removeSession session).2
  | .setStatus key status => r.setStatus key status
  | .restate status => r.map fun x => x.withStatus (status x)

/-- The record that is registered by an operation for a key that had none, if one is. -/
def newcomer? (r : Roster) : Op → Option Record
  | .register key affected transaction =>
    if r.find? key = none then
      match r.register key affected transaction with
      | .ok (record, _) => some record
      | .error _ => none
    else none
  | _ => none

/-- The records that are registered by operations, one after the other, for keys that had none. -/
def newcomers : Roster → List Op → List Record
  | _, [] => []
  | r, op :: ops => (r.newcomer? op).toList ++ newcomers (r.apply op) ops

variable {r : Roster} {op : Op}

/-! ### What operations keep -/

/-- A roster is as before after a registration, or the record of a newcomer was put last. -/
lemma register_or (r : Roster) (key : QueryKey) (affected : List ViewId)
    (transaction : TransactionId) :
    let op := Op.register key affected transaction
    r.apply op = r ∧ r.newcomer? op = none ∨
      ∃ x, x.key = key ∧ r.find? key = none ∧ r.size < r.capacity ∧ x.arrival = r.arrivals + 1 ∧
        r.apply op = { r with records := r.records ++ [x], arrivals := r.arrivals + 1 } ∧
        r.newcomer? op = some x := by
  intro op
  rcases hr : r.register key affected transaction with refusal | ⟨x, r'⟩
  · refine .inl ⟨by simp only [op, apply, hr], ?_⟩
    simp only [op, newcomer?, hr, ite_self]
  · rcases register_eq_ok hr with ⟨hf, rfl⟩ | ⟨hf, hroom, hx, hr'⟩
    · exact .inl ⟨by simp only [op, apply, hr], if_neg (by rw [hf]; exact Option.some_ne_none x)⟩
    · refine .inr ⟨x, by rw [hx], hf, hroom, by rw [hx], ?_, ?_⟩
      · simp only [op, apply, hr, hr']
      · simp only [op, newcomer?, hf, hr, if_true]

lemma Ranked.apply (h : r.Ranked) (op : Op) : (r.apply op).Ranked := by
  cases op with
  | register key affected transaction =>
    rcases r.register_or key affected transaction with ⟨he, -⟩ | ⟨x, rfl, hf, -, hx, he, -⟩
    · rwa [he]
    · rw [he]
      exact h.append hx hf
  | remove key => exact h.filter _
  | removeSession session => exact h.filter _
  | setStatus key status => exact h.setStatus key status
  | restate status =>
    refine h.of_map_eq rfl ?_ ?_
    · exact List.map_map
    · exact List.map_map

lemma later_apply (r : Roster) (op : Op) : r.Later (r.apply op) := by
  cases op with
  | register key affected transaction =>
    rcases r.register_or key affected transaction with ⟨he, -⟩ | ⟨x, -, -, hroom, -, he, -⟩
    · rw [he]
    · rw [he]
      refine ⟨rfl, rfl, Nat.le_succ _, fun _ => ?_⟩
      rw [size, List.length_append, List.length_singleton]
      exact hroom
  | remove key => exact r.later_filter _
  | removeSession session => exact r.later_filter _
  | setStatus key status => exact r.later_setStatus key status
  | restate status =>
    refine ⟨rfl, rfl, Nat.le_refl _, fun hs => ?_⟩
    rwa [size, Roster.apply, records_map, List.length_map]

/-- Whatever operations there were, a roster is ranked, and within its bounds. -/
lemma ranked_foldl (capacity maxAffected : Nat) (ops : List Op) :
    let r := ops.foldl apply (empty capacity maxAffected)
    r.Ranked ∧ (empty capacity maxAffected).Later r := by
  induction ops using List.reverseRecOn with
  | nil => exact ⟨ranked_empty capacity maxAffected, .refl _⟩
  | append_singleton ops op ih =>
    rw [List.foldl_concat]
    exact ⟨ih.1.apply op, ih.2.trans (later_apply _ op)⟩

/-- The count of arrivals grows by one for each newcomer, who is given it as a number. -/
lemma newcomer?_numbered (r : Roster) (op : Op) :
    (r.newcomer? op).toList.map (·.arrival)
        = List.range' (r.arrivals + 1) (r.newcomer? op).toList.length ∧
      (r.apply op).arrivals = r.arrivals + (r.newcomer? op).toList.length := by
  cases op with
  | register key affected transaction =>
    rcases r.register_or key affected transaction with ⟨he, hn⟩ | ⟨x, -, -, -, hx, he, hn⟩
    · rw [he, hn]
      exact ⟨rfl, rfl⟩
    · rw [he, hn]
      exact ⟨congrArg ([·]) hx, rfl⟩
  | remove | removeSession | setStatus | restate => exact ⟨rfl, rfl⟩

lemma newcomers_numbered (r : Roster) (ops : List Op) :
    (r.newcomers ops).map (·.arrival) = List.range' (r.arrivals + 1) (r.newcomers ops).length := by
  induction ops generalizing r with
  | nil => rfl
  | cons op ops ih =>
    obtain ⟨hfirst, harrivals⟩ := r.newcomer?_numbered op
    rw [newcomers, List.map_append, List.length_append, hfirst, ih, harrivals, ← List.range'_append]
    congr 2
    omega

/-! ### Records that leave -/

/-- From a roster, those records leave for which this holds. They are told in their order; the
others keep their order, and all records are as they were. -/
structure Parts (r : Roster) (p : Record → Prop) (gone : List Record) (left : Roster) : Prop where
  gone_sublist : gone.Sublist r.records
  left_sublist : left.records.Sublist r.records
  perm : (gone ++ left.records).Perm r.records
  leaves : ∀ x ∈ gone, p x
  stays : ∀ x ∈ left.records, ¬p x
  sorted : gone.Pairwise (·.arrival < ·.arrival)
  arrivals_eq : left.arrivals = r.arrivals

/-- To leave is to be struck off. -/
lemma Ranked.parts (h : r.Ranked) (p : Record → Bool) :
    r.Parts (p ·) (r.records.filter p) { r with records := r.records.filter (!p ·) } where
  gone_sublist := List.filter_sublist
  left_sublist := List.filter_sublist
  perm := List.filter_append_perm p r.records
  leaves x hx := (List.mem_filter.1 hx).2
  stays x hx := by simpa using (List.mem_filter.1 hx).2
  sorted := h.sorted.filter p
  arrivals_eq := rfl

/-- The record of a key is the one that is struck off with it. -/
lemma Ranked.filter_key (h : r.Ranked) (key : QueryKey) :
    r.records.filter (·.key = key) = (r.remove key).1.toList := by
  rcases hf : r.find? key with _ | x
  · rw [show (r.remove key).1 = none from hf, Option.toList_none, List.filter_eq_nil_iff]
    intro x hx
    simpa using find?_eq_none.1 hf x hx
  · rw [show (r.remove key).1 = some x from hf, filter_key_eq h.keys_nodup hf]
    rfl

/-- Take the records of these keys off the roster, one after the other. -/
def removeEach : Roster → List QueryKey → List Record × Roster
  | r, [] => ([], r)
  | r, key :: keys =>
    let others := removeEach (r.remove key).2 keys
    ((r.remove key).1.toList ++ others.1, others.2)

/-- Records of different keys are taken off one after the other as they would be at once. -/
lemma Ranked.removeEach_map_key (h : r.Ranked) {gone : List Record} (hgone : gone ⊆ r.records)
    (hkeys : (gone.map (·.key)).Nodup) :
    r.removeEach (gone.map (·.key))
      = (gone, { r with records := r.records.filter (·.key ∉ gone.map (·.key)) }) := by
  induction gone generalizing r with
  | nil => simp [removeEach]
  | cons x gone ih =>
    obtain ⟨hx, hkeys⟩ := List.nodup_cons.1 hkeys
    have hf : r.find? x.key = some x :=
      (find?_eq_some_iff h.keys_nodup).2 ⟨hgone List.mem_cons_self, rfl⟩
    -- The others are still there when this one is gone.
    have hothers : gone ⊆ (r.remove x.key).2.records := by
      intro y hy
      refine List.mem_filter.2 ⟨hgone (List.mem_cons_of_mem x hy), ?_⟩
      exact decide_eq_true fun heq => hx (List.mem_map.2 ⟨y, hy, heq⟩)
    have hranked : (r.remove x.key).2.Ranked := h.filter _
    have hrest := ih hranked hothers hkeys
    rw [List.map_cons, removeEach, hrest]
    refine Prod.ext ?_ ?_
    · show (r.find? x.key).toList ++ gone = x :: gone
      rw [hf]
      rfl
    · show ({ r with records := _ } : Roster) = { r with records := _ }
      rw [records_remove, List.filter_filter]
      congr 2
      funext y
      simp only [List.mem_cons, not_or, Bool.decide_and, Bool.and_comm]

/-- The records of a session leave as when each is removed by itself. -/
lemma Ranked.removeEach_eq_removeSession (h : r.Ranked) (id : SessionId) :
    r.removeEach ((r.records.filter (·.session = id)).map (·.key)) = r.removeSession id := by
  rw [h.removeEach_map_key List.filter_sublist.subset
    (h.keys_nodup.sublist (List.filter_sublist.map _))]
  refine Prod.ext rfl ?_
  show ({ r with records := _ } : Roster) = { r with records := _ }
  congr 1
  refine List.filter_congr fun x hx => ?_
  -- Whether a key is among those of the session shows in the key itself.
  have hiff : x.key ∈ (r.records.filter (·.session = id)).map (·.key) ↔ x.session = id := by
    refine ⟨fun hm => ?_, fun hs => ?_⟩
    · obtain ⟨y, hy, hkey⟩ := List.mem_map.1 hm
      have hys : y.session = id := by simpa using (List.mem_filter.1 hy).2
      rwa [Record.session, ← hkey]
    · exact List.mem_map_of_mem (List.mem_filter.2 ⟨hx, by simpa using hs⟩)
  simp only [hiff]

/-- Whatever was done with a roster that had no records, and whatever was refused or removed on the
way:

* Every key is listed once, by the order of arrival, and no more records than there are places.
* What is found of a key, and its status, are those of its record, and there are none without one.
* The newcomers are numbered one after the other, from one on.
* When a key is removed, its record leaves, and when a session is, all its records do, as if their
  keys had been removed one by one. They are told by the order of arrival, and all that is said of
  the others, and their order, is as before. -/
theorem kept_in_order (capacity maxAffected : Nat) (ops : List Op) :
    let r := ops.foldl apply (empty capacity maxAffected)
    let entrants := newcomers (empty capacity maxAffected) ops
    ((r.records.map (·.key)).Nodup ∧ r.records.Pairwise (·.arrival < ·.arrival) ∧
        r.records.length ≤ capacity) ∧
      (∀ key, (∀ x, r.find? key = some x ↔ x ∈ r.records ∧ x.key = key) ∧
        (∀ status, r.status? key = some status ↔
          ∃ x ∈ r.records, x.key = key ∧ x.status = status) ∧
        ((∀ x ∈ r.records, x.key ≠ key) → r.find? key = none ∧ r.status? key = none)) ∧
      (∀ k (hk : k < entrants.length), entrants[k].arrival = k + 1) ∧
      (∀ key, r.Parts (·.key = key) (r.remove key).1.toList (r.remove key).2) ∧
      ∀ id, r.Parts (·.session = id) (r.removeSession id).1 (r.removeSession id).2 ∧
        r.removeEach ((r.records.filter (·.session = id)).map (·.key)) = r.removeSession id := by
  intro r entrants
  obtain ⟨hr, hlater⟩ : r.Ranked ∧ (empty capacity maxAffected).Later r :=
    ranked_foldl capacity maxAffected ops
  refine ⟨⟨hr.keys_nodup, hr.sorted, ?_⟩, fun key => ⟨fun x => ?_, fun status => ?_, fun hno => ?_⟩,
    fun k hk => ?_, fun key => ?_, fun id => ⟨?_, ?_⟩⟩
  · exact hlater.size_le (Nat.zero_le _)
  · exact find?_eq_some_iff hr.keys_nodup
  · exact status?_eq_some_iff hr.keys_nodup
  · exact ⟨find?_eq_none.2 hno, status?_eq_none.2 hno⟩
  · have hnumbers : entrants.map (·.arrival) = List.range' 1 entrants.length :=
      newcomers_numbered (empty capacity maxAffected) ops
    have hnth := congrArg (·[k]?) hnumbers
    simpa [hk, Nat.add_comm 1 k] using hnth
  · have hparts := hr.parts (·.key = key)
    rw [hr.filter_key key] at hparts
    simpa [remove] using hparts
  · simpa [removeSession] using hr.parts (·.session = id)
  · exact hr.removeEach_eq_removeSession id

end Roster

end QueryAdmission
