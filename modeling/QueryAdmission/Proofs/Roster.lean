import Mathlib.Data.List.Nodup
import QueryAdmission.Roster

/-!
# The roster by key

The roster seen as a partial function from keys to records, and to statuses. In a roster in which
every key is there once, that function says all about the records but their order. Every operation
of the roster is described through it.
-/

namespace QueryAdmission

namespace Roster

lemma status?_eq_none {r : Roster} {key : QueryKey} :
    r.status? key = none ↔ ∀ record ∈ r.records, record.key ≠ key := by
  rw [status?, Option.map_eq_none_iff, find?_eq_none]

lemma find?_eq_some_iff {r : Roster} (h : (r.records.map (·.key)).Nodup) {key : QueryKey}
    {record : Record} : r.find? key = some record ↔ record ∈ r.records ∧ record.key = key := by
  refine ⟨fun hf => ⟨List.mem_of_find?_eq_some hf, find?_eq_some_key hf⟩, ?_⟩
  rintro ⟨hm, rfl⟩
  rcases ho : r.find? record.key with _ | other
  · exact absurd rfl (find?_eq_none.1 ho record hm)
  · rw [List.inj_on_of_nodup_map h (List.mem_of_find?_eq_some ho) hm (find?_eq_some_key ho)]

lemma status?_eq_some_iff {r : Roster} (h : (r.records.map (·.key)).Nodup) {key : QueryKey}
    {s : Status} : r.status? key = some s ↔ ∃ x ∈ r.records, x.key = key ∧ x.status = s := by
  simp only [status?, Option.map_eq_some_iff, find?_eq_some_iff h, and_assoc]

lemma find?_setStatus (r : Roster) (key other : QueryKey) (s : Status) :
    (r.setStatus key s).find? other
      = (r.find? other).map fun x => if x.key = key then x.withStatus s else x := by
  unfold setStatus map find?
  induction r.records with
  | nil => rfl
  | cons x l ih =>
    have hx : (if x.key = key then x.withStatus s else x).key = x.key := by split <;> rfl
    by_cases ho : x.key = other
    · rw [List.map_cons, List.find?_cons_of_pos (by simpa [hx] using ho),
        List.find?_cons_of_pos (by simpa using ho)]
      rfl
    · rw [List.map_cons, List.find?_cons_of_neg (by simpa [hx] using ho),
        List.find?_cons_of_neg (by simpa using ho)]
      exact ih

@[simp] lemma map_key_setStatus (r : Roster) (key : QueryKey) (s : Status) :
    (r.setStatus key s).records.map (·.key) = r.records.map (·.key) := by
  rw [setStatus, records_map, List.map_map]
  apply List.map_congr_left
  intro x _
  show Record.key (if x.key = key then x.withStatus s else x) = x.key
  split <;> rfl

@[simp] lemma map_arrival_setStatus (r : Roster) (key : QueryKey) (s : Status) :
    (r.setStatus key s).records.map (·.arrival) = r.records.map (·.arrival) := by
  rw [setStatus, records_map, List.map_map]
  apply List.map_congr_left
  intro x _
  show Record.arrival (if x.key = key then x.withStatus s else x) = x.arrival
  split <;> rfl

@[simp] lemma size_setStatus (r : Roster) (key : QueryKey) (s : Status) :
    (r.setStatus key s).size = r.size := List.length_map _

lemma status?_setStatus (r : Roster) (key other : QueryKey) (s : Status) :
    (r.setStatus key s).status? other
      = if other = key then (r.status? other).map fun _ => s else r.status? other := by
  rw [status?, status?, find?_setStatus]
  cases h : r.find? other with
  | none => simp
  | some x =>
    have hx := find?_eq_some_key h
    by_cases hk : other = key
    · simp [hx, hk]
    · simp [hx, hk]

lemma status?_remove (r : Roster) (key other : QueryKey) :
    (r.remove key).2.status? other = if other = key then none else r.status? other := by
  rw [status?, find?, remove]
  rw [List.find?_filter]
  by_cases hk : other = key
  · subst hk
    rw [if_pos rfl, Option.map_eq_none_iff, List.find?_eq_none]
    simp
  · rw [if_neg hk]
    congr 2
    funext x
    by_cases hx : x.key = other <;> simp [hx, hk]

lemma status?_removeSession (r : Roster) (s : SessionId) (key : QueryKey) :
    (r.removeSession s).2.status? key = if key.session = s then none else r.status? key := by
  rw [status?, find?, removeSession]
  rw [List.find?_filter]
  by_cases hk : key.session = s
  · rw [if_pos hk, Option.map_eq_none_iff, List.find?_eq_none]
    rintro x - hx
    simp only [Record.session, decide_eq_true_eq, Bool.decide_and, Bool.and_eq_true] at hx
    exact of_decide_eq_true hx.1 (hx.2 ▸ hk)
  · rw [if_neg hk]
    congr 2
    funext x
    by_cases hx : x.key = key <;> simp [Record.session, hx, hk]

/-- A registration that succeeds finds a record, or adds one at the end. -/
lemma register_eq_ok {r r' : Roster} {key : QueryKey} {affected : List ViewId}
    {transaction : TransactionId} {record : Record}
    (h : r.register key affected transaction = .ok (record, r')) :
    r.find? key = some record ∧ r' = r ∨
      r.find? key = none ∧ r.size < r.capacity ∧
        record = ⟨key, .waiting, affected, transaction, r.arrivals + 1⟩ ∧
        r' = { r with records := r.records ++ [record], arrivals := r.arrivals + 1 } := by
  rw [register] at h
  split at h
  · cases h
  · split at h
    · next hf => cases h; exact .inl ⟨hf, rfl⟩
    · next hf =>
      split at h
      · cases h
      · next hc => cases h; exact .inr ⟨hf, Nat.lt_of_not_le hc, rfl, rfl⟩

/-- A record may be added for a key that has none. -/
lemma nodup_map_key_append {r : Roster} (h : (r.records.map (·.key)).Nodup) {record : Record}
    (hf : r.find? record.key = none) : ((r.records ++ [record]).map (·.key)).Nodup := by
  rw [List.map_append, List.nodup_append]
  refine ⟨h, List.nodup_singleton _, ?_⟩
  intro a ha b hb
  obtain ⟨x, hx, rfl⟩ := List.mem_map.1 ha
  rw [List.map_singleton, List.mem_singleton] at hb
  rw [hb]
  exact find?_eq_none.1 hf x hx

lemma status?_append (r : Roster) (record : Record) (arrivals : Nat) (key : QueryKey) :
    ({ r with records := r.records ++ [record], arrivals } : Roster).status? key
      = (r.status? key).or (if key = record.key then some record.status else none) := by
  unfold status? find?
  rw [List.find?_append, List.find?_singleton]
  cases r.records.find? fun x => decide (x.key = key) with
  | some x => rfl
  | none =>
    by_cases hk : key = record.key
    · simp [hk]
    · simp [hk, Ne.symm hk]

end Roster

end QueryAdmission
