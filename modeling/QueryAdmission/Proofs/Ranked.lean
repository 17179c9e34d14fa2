import QueryAdmission.Proofs.ArrivalOrder

/-!
# Ranks

A query's rank is its place in the order of arrival. The roster lists every key once and by rank,
there are never more slots in use than there are, and nobody stays who has given a slot up
(`Service.Ranked`). Unlike the account of slots, this needs no discipline: it holds of every
scheduler that is used in any way at all (`Service.Reached`), also when queries are marked as
running that hold no slot.
-/

namespace QueryAdmission

/-! ### Ranked rosters -/

/-- A roster with every key at most once, in the order of arrival. -/
structure Roster.Ranked (r : Roster) : Prop where
  sorted : r.records.Pairwise (·.arrival < ·.arrival)
  numbered : ∀ x ∈ r.records, x.arrival ≤ r.arrivals
  keys_nodup : (r.records.map (·.key)).Nodup

namespace Roster

variable {r r' : Roster} {x : Record}

lemma ranked_empty (capacity maxAffected : Nat) : (Roster.empty capacity maxAffected).Ranked where
  sorted := .nil
  numbered x hx := by cases hx
  keys_nodup := .nil

/-- Records may leave from anywhere. -/
lemma Ranked.filter (h : r.Ranked) (p : Record → Bool) :
    Ranked { r with records := r.records.filter p } where
  sorted := h.sorted.filter p
  numbered x hx := h.numbered x (List.mem_of_mem_filter hx)
  keys_nodup := h.keys_nodup.sublist (List.filter_sublist.map _)

/-- Whoever arrives stands last. -/
lemma Ranked.append (h : r.Ranked) (hx : x.arrival = r.arrivals + 1) (hf : r.find? x.key = none) :
    Ranked { r with records := r.records ++ [x], arrivals := r.arrivals + 1 } where
  sorted := sorted_append h.sorted h.numbered hx
  numbered := numbered_append h.numbered hx
  keys_nodup := nodup_map_key_append h.keys_nodup hf

/-- Nothing but keys and numbers has to do with it. -/
lemma Ranked.of_map_eq (h : r.Ranked) (ha : r'.arrivals = r.arrivals)
    (hkeys : r'.records.map (·.key) = r.records.map (·.key))
    (hnumbers : r'.records.map (·.arrival) = r.records.map (·.arrival)) : r'.Ranked where
  sorted := by
    rw [← List.pairwise_map, hnumbers, List.pairwise_map]
    exact h.sorted
  numbered x hx := by
    have hmem : x.arrival ∈ r'.records.map (·.arrival) := List.mem_map_of_mem hx
    rw [hnumbers] at hmem
    obtain ⟨y, hy, heq⟩ := List.mem_map.1 hmem
    rw [← heq, ha]
    exact h.numbered y hy
  keys_nodup := by
    rw [hkeys]
    exact h.keys_nodup

lemma Ranked.setStatus (h : r.Ranked) (key : QueryKey) (s : Status) :
    (r.setStatus key s).Ranked :=
  h.of_map_eq rfl (r.map_key_setStatus key s) (r.map_arrival_setStatus key s)

lemma Ranked.pass {s : Schedule} (h : s.roster.Ranked) (max : Nat) :
    (s.pass max).2.roster.Ranked :=
  h.of_map_eq rfl (s.map_key_pass max) (s.map_arrival_pass max)

end Roster

/-! ### Ranked schedulers -/

namespace Service

/-- A scheduler between two operations, in whatever way it is used. -/
structure Ranked (s : Service) : Prop where
  roster : s.schedule.roster.Ranked
  running_le : s.running ≤ s.slots
  settled : ∀ r ∈ s.records, r.status ≠ .gaveUp

variable {s s' : Service} {settings : Settings}

lemma ranked_ofSettings (settings : Settings) : (ofSettings settings).Ranked where
  roster := Roster.ranked_empty _ _
  running_le := Nat.zero_le _
  settled := by
    intro r hr
    cases hr

lemma Ranked.congr (h : s.Ranked) (hs : s'.settings = s.settings)
    (hr : s'.schedule = s.schedule) : s'.Ranked := by
  obtain ⟨settings, schedule, _, _, _⟩ := s
  obtain ⟨_, _, _, _, _⟩ := s'
  obtain rfl : _ = settings := hs
  obtain rfl : _ = schedule := hr
  exact ⟨h.roster, h.running_le, h.settled⟩

/-- A pass hands out no more slots than are free, and lets nobody stay who has given up. -/
lemma ranked_pass (h : s.schedule.roster.Ranked) (hle : s.running ≤ s.slots) : s.pass.2.Ranked where
  roster := h.pass s.slots
  running_le := by
    have hpass := s.schedule.fst_pass_le s.slots
    rw [running] at hle
    show s.schedule.running + (s.schedule.pass s.slots).1 ≤ s.slots
    omega
  settled := s.schedule.status_ne_gaveUp_pass s.slots

lemma Ranked.pass (h : s.Ranked) : s.pass.2.Ranked := ranked_pass h.roster h.running_le

lemma Ranked.register (h : s.Ranked) (key : QueryKey) (affected : List ViewId)
    (transaction : TransactionId) : (s.register key affected transaction).2.Ranked := by
  rw [Service.register]
  split
  · exact h
  · split
    · exact h.congr rfl rfl
    · next record roster heq =>
      refine ranked_pass ?_ h.running_le
      rcases Roster.register_eq_ok heq with ⟨-, rfl⟩ | ⟨hf, -, hr, rfl⟩
      · exact h.roster
      · exact h.roster.append (by rw [hr]) (by rwa [hr])

/-- When a slot is freed, no more are in use than before. -/
lemma Ranked.running_release_le (h : s.Ranked) (roster : Roster) (r : Record) :
    (Schedule.release { s.schedule with roster } r).running ≤ s.slots := by
  rw [Schedule.running_release]
  exact Nat.le_trans (Nat.sub_le _ _) h.running_le

lemma Ranked.withdraw (h : s.Ranked) (key : QueryKey) : (s.withdraw key).2.Ranked := by
  rw [Service.withdraw]
  split
  · exact h
  · next record roster heq =>
    obtain ⟨-, rfl⟩ := Prod.mk.inj heq
    refine ranked_pass ?_ (h.running_release_le _ record)
    rw [Schedule.roster_release]
    exact h.roster.filter _

lemma Ranked.complete (h : s.Ranked) (key : QueryKey) : (s.complete key).2.Ranked := by
  have hw := h.withdraw key
  rw [Service.complete]
  split
  · next heq => rwa [heq] at hw
  · next heq =>
    rw [heq] at hw
    exact hw.congr rfl rfl

lemma Ranked.look (h : s.Ranked) (key : QueryKey) : (s.look key).2.Ranked := by
  rw [Service.look]
  split
  · exact h
  · next status _ =>
    by_cases hc : s.running = 0 ∧ status ≠ .available
    · rw [if_pos hc]
      exact ranked_pass h.roster h.running_le
    · rw [if_neg hc]
      exact h

lemma Ranked.depart (h : s.Ranked) (key : QueryKey) (why : Departure) :
    (s.depart key why).Ranked := by
  cases why with
  | shutDown => exact h.withdraw key
  | cancelled => exact (h.withdraw key).congr rfl rfl

lemma Ranked.poll (h : s.Ranked) (key : QueryKey) (called : Bool) :
    (s.poll key called).2.Ranked := by
  have hl := h.look key
  rw [Service.poll]
  split
  · next heq => rwa [heq] at hl
  · next heq => rwa [heq] at hl
  · next s' heq =>
    rw [heq] at hl
    split_ifs
    · exact hl.depart key .shutDown
    · exact hl.depart key .cancelled
    · exact hl

lemma Ranked.giveUp (h : s.Ranked) (key : QueryKey) : (s.giveUp key).Ranked := by
  rw [Service.giveUp]
  split
  · exact h
  · next record _ =>
    refine ranked_pass ?_ (h.running_release_le _ record)
    show ((s.schedule.release record).roster.setStatus key .gaveUp).Ranked
    rw [Schedule.roster_release]
    exact h.roster.setStatus key .gaveUp

/-- Any query may be marked as running here, with a slot or without one. -/
lemma Ranked.markRunning (h : s.Ranked) (key : QueryKey) : (s.markRunning key).2.Ranked := by
  rw [Service.markRunning]
  split
  · exact h
  · refine ⟨h.roster.setStatus key .running, h.running_le, ?_⟩
    intro r hr
    obtain ⟨x, hx, rfl⟩ := List.mem_map.1 hr
    split
    · simp
    · exact h.settled x hx

lemma Ranked.sweep (h : s.Ranked) (session : SessionId) : (s.sweep session).2.Ranked := by
  rw [Service.sweep]
  split
  · exact h
  · next removed roster _ heq =>
    obtain ⟨-, rfl⟩ := Prod.mk.inj heq
    refine ranked_pass ?_ ?_
    · show Roster.Ranked (Schedule.roster (List.foldl _ _ _))
      rw [Schedule.roster_foldl_release]
      exact h.roster.filter _
    · show Schedule.running (List.foldl _ _ _) ≤ s.slots
      rw [Schedule.running_foldl_release]
      exact Nat.le_trans (Nat.sub_le _ _) h.running_le

lemma Ranked.apply (h : s.Ranked) (op : Op) : (s.apply op).Ranked := by
  cases op with
  | register key affected transaction => exact h.register key affected transaction
  | complete key => exact h.complete key
  | pass => exact h.pass
  | poll key called => exact h.poll key called
  | giveUp key => exact h.giveUp key
  | markRunning key => exact h.markRunning key
  | sweep session => exact h.sweep session
  | shutDown => exact h.congr rfl rfl

/-! ### All that may become of a scheduler -/

/-- The schedulers that come of one with settings in order when sessions are opened and operations
are carried out, in any number and order. The two halves of a poll are operations too: others may
come between them. -/
inductive Reached (settings : Settings) : Service → Prop
  | built {s : Service} (h : build settings = .ok s) : Reached settings s
  | opened {s : Service} (h : Reached settings s) : Reached settings s.openSession.2
  | applied {s : Service} (h : Reached settings s) (op : Op) : Reached settings (s.apply op)
  | looked {s : Service} (h : Reached settings s) (key : QueryKey) : Reached settings (s.look key).2
  | departed {s : Service} (h : Reached settings s) (key : QueryKey) (why : Departure) :
      Reached settings (s.depart key why)

lemma Reached.ranked (h : Reached settings s) : s.Ranked := by
  induction h with
  | built hb =>
    obtain ⟨rfl, -⟩ := build_eq_ok hb
    exact ranked_ofSettings settings
  | opened _ ih => exact ih.congr rfl rfl
  | applied _ op ih => exact ih.apply op
  | looked _ key ih => exact ih.look key
  | departed _ key why ih => exact ih.depart key why

lemma Reached.foldl (h : Reached settings s) (ops : List Op) :
    Reached settings (ops.foldl apply s) := by
  induction ops generalizing s with
  | nil => exact h
  | cons op ops ih => exact ih (h.applied op)

end Service

end QueryAdmission
