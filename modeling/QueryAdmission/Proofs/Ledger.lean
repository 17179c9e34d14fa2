import QueryAdmission.Proofs.Statuses
import QueryAdmission.Proofs.SlotAccount

/-!
# The ledger of queries

What a scheduler's tally and its roster say about how many queries have come and gone (`Ledger`). It
does not change while queries look for slots, retreat and begin to run (`Service.Level`); a
registration that is not refused enters one more query, and the end of a query that has a record
strikes it out.
-/

namespace QueryAdmission

/-- How many queries have come and gone, and under which bounds more may come. -/
structure Ledger where
  registered : Nat
  rejected : Nat
  completed : Nat
  swept : Nat
  cancelled : Nat
  /-- How many queries have a record. -/
  inFlight : Nat
  maxAffected : Nat
  isShut : Bool
  deriving DecidableEq, Repr

namespace Ledger

/-- One more query has come. -/
def arrival (l : Ledger) : Ledger :=
  { l with registered := l.registered + 1, inFlight := l.inFlight + 1 }

/-- One query is over. -/
def departure (l : Ledger) : Ledger :=
  { l with completed := l.completed + 1, inFlight := l.inFlight - 1 }

end Ledger

namespace Service

/-- The ledger of a scheduler. -/
def ledger (s : Service) : Ledger where
  registered := s.tally.registered
  rejected := s.tally.rejected
  completed := s.tally.completed
  swept := s.tally.swept
  cancelled := s.tally.cancelled
  inFlight := s.records.length
  maxAffected := s.schedule.roster.maxAffected
  isShut := s.isShut

/-- No query has come or gone. -/
structure Level (s s' : Service) : Prop where
  ledger_eq : s'.ledger = s.ledger
  status?_eq_none : ∀ key, s'.status? key = none ↔ s.status? key = none

variable {s s' : Service} {key : QueryKey} {affected : List ViewId} {transaction : TransactionId}
  {record : Record}

@[refl] lemma Level.refl (s : Service) : s.Level s := ⟨rfl, fun _ => Iff.rfl⟩

@[simp] lemma ledger_pass (s : Service) : s.pass.2.ledger = s.ledger := by
  simp only [ledger, Ledger.mk.injEq]
  exact ⟨rfl, rfl, rfl, rfl, rfl, s.schedule.size_pass s.slots, rfl, rfl⟩

/-! ### Sections in which no query comes or goes -/

lemma level_look (s : Service) (key : QueryKey) : s.Level (s.look key).2 where
  ledger_eq := by
    rw [look]
    split
    · rfl
    · dsimp only
      split
      · exact ledger_pass _
      · rfl
  status?_eq_none other := (s.kept_look key other).eq_none

lemma level_markRunning (s : Service) (key : QueryKey) : s.Level (s.markRunning key).2 where
  ledger_eq := by
    rw [markRunning]
    split
    · rfl
    · simp [ledger, records, Schedule.setStatus, Roster.setStatus, Roster.map]
  status?_eq_none other := by
    rw [status?_markRunning]
    split_ifs
    · exact Option.map_eq_none_iff
    · exact Iff.rfl

lemma level_giveUp (s : Service) (key : QueryKey) : s.Level (s.giveUp key) where
  ledger_eq := by
    rw [giveUp]
    split
    · rfl
    · rw [ledger_pass]
      simp [ledger, count, records, Schedule.setStatus, Roster.setStatus, Roster.map]
  status?_eq_none other := by
    by_cases h : other = key
    · rw [h, status?_giveUp]
      exact Option.map_eq_none_iff
    · exact (s.kept_giveUp key other h).eq_none

/-! ### Queries that come and go -/

/-- An open scheduler refuses no query for which there is a place and that affects no more views
than it may. -/
lemma register_ne_error (hs : s.isShut = false)
    (ha : affected.length ≤ s.schedule.roster.maxAffected)
    (hc : s.records.length < s.schedule.roster.capacity) {r : Refusal} :
    s.register key affected transaction ≠ (.error r, s') := by
  have hc' : ¬s.schedule.roster.capacity ≤ s.schedule.roster.size := Nat.not_le.2 hc
  have hr (r : Refusal) : s.schedule.roster.register key affected transaction ≠ .error r := by
    rw [Roster.register, if_neg (Nat.not_lt.2 ha)]
    split
    · exact fun he => by cases he
    · rw [if_neg hc']
      exact fun he => by cases he
  rw [register, hs]
  split
  · next h => cases h
  · split
    · next heq => exact absurd heq (hr _)
    · intro h
      cases h

/-- A registration that is not refused enters one more query. -/
lemma ledger_register (h : s.register key affected transaction = (.ok record, s'))
    (hn : s.status? key = none) : s'.ledger = s.ledger.arrival := by
  rw [register] at h
  split at h
  · cases h
  · split at h
    · cases h
    · next heq =>
      cases h
      rw [ledger_pass]
      rcases Roster.register_eq_ok heq with ⟨hf, -⟩ | ⟨-, -, rfl, rfl⟩
      · rw [status?, Roster.status?, hf] at hn
        cases hn
      · simp [ledger, Ledger.arrival, count, records]

/-- The end of a query that has a record strikes it out. -/
lemma ledger_complete (hs : s.Sound) (hk : s.status? key ≠ none) :
    (s.complete key).2.ledger = s.ledger.departure := by
  obtain ⟨record, hf⟩ : ∃ record, s.find? key = some record :=
    Option.ne_none_iff_exists'.1 fun hn => hk (congrArg (Option.map _) hn)
  have hl : (s.records.filter (·.key ≠ key)).length = s.records.length - 1 :=
    Nat.eq_sub_of_add_eq (Roster.length_filter_key hs.keys_nodup hf)
  have hr : s.schedule.roster.remove key
      = (some record, ⟨s.schedule.roster.capacity, s.schedule.roster.maxAffected,
          s.records.filter (·.key ≠ key), s.schedule.roster.arrivals⟩) :=
    congrArg (·, _) hf
  let rest : Roster := { s.schedule.roster with records := s.records.filter (·.key ≠ key) }
  let s₁ : Service :=
    { s with schedule := ({ s.schedule with roster := rest } : Schedule).release record }
  rw [complete, withdraw, hr]
  calc
    _ = { s₁.pass.2.ledger with completed := s₁.pass.2.ledger.completed + 1 } := rfl
    _ = { s₁.ledger with completed := s₁.ledger.completed + 1 } := by rw [ledger_pass]
    _ = s.ledger.departure := by
      simpa [s₁, rest, ledger, Ledger.departure, records] using hl

end Service

end QueryAdmission
