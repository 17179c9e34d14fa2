/-!
# Pairs looked up by their first part

A list of pairs in which the first pair with a given first part counts.
-/

namespace QueryAdmission

variable {α β : Type} [DecidableEq α]

theorem lookup_cons_eq_ite (a b : α) (x : β) (l : List (α × β)) :
    ((a, x) :: l).lookup b = if b = a then some x else l.lookup b := by
  by_cases h : b = a
  · subst h; simp
  · have h' : (b == a) = false := beq_eq_false_iff_ne.2 h
    rw [List.lookup_cons, h', if_neg h]

/-- Pairs of other first parts may be left out. -/
theorem lookup_filter (p : α → Bool) {a : α} (hp : p a = true) (l : List (α × β)) :
    (l.filter fun e => p e.1).lookup a = l.lookup a := by
  induction l with
  | nil => rfl
  | cons e l ih =>
    obtain ⟨b, x⟩ := e
    by_cases h : a = b
    · subst h
      rw [List.filter_cons_of_pos (by simpa using hp), List.lookup_cons_self, List.lookup_cons_self]
    · rw [lookup_cons_eq_ite, if_neg h, ← ih, List.filter_cons]
      split
      · rw [lookup_cons_eq_ite, if_neg h]
      · rfl

/-- After the pairs of one first part are struck out, the others are found as before. -/
theorem lookup_filter_ne (l : List (α × β)) (a b : α) :
    (l.filter (·.1 ≠ a)).lookup b = if b = a then none else l.lookup b := by
  induction l with
  | nil => simp
  | cons e l ih =>
    obtain ⟨c, x⟩ := e
    by_cases hc : c = a
    · subst hc
      rw [List.filter_cons_of_neg (by simp), ih, lookup_cons_eq_ite]
      split <;> simp_all
    · rw [List.filter_cons_of_pos (by simpa using hc), lookup_cons_eq_ite, lookup_cons_eq_ite, ih]
      split
      · next h => rw [if_neg (by rw [h]; exact hc)]
      · rfl

/-- Of pairs whose first parts are all different, each counts. -/
theorem lookup_eq_some_iff_mem {l : List (α × β)} (h : (l.map Prod.fst).Nodup) {a : α} {x : β} :
    l.lookup a = some x ↔ (a, x) ∈ l := by
  induction l with
  | nil => exact ⟨nofun, nofun⟩
  | cons e l ih =>
    obtain ⟨b, y⟩ := e
    rw [List.map_cons, List.nodup_cons] at h
    rw [lookup_cons_eq_ite, List.mem_cons, Prod.mk.injEq]
    split
    · next hab =>
      subst hab
      have hnone : (a, x) ∉ l := fun hm => h.1 (List.mem_map.2 ⟨(a, x), hm, rfl⟩)
      rw [or_iff_left hnone, and_iff_right rfl, Option.some.injEq, eq_comm]
    · next hab => rw [ih h.2, or_iff_right fun hm => hab hm.1]

end QueryAdmission
