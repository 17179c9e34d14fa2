import Mathlib.Algebra.Order.Group.Multiset
import QueryAdmission.Proofs.Sections

/-!
# What a call is in charge of

Between two sections, a call on a session has tables in its hands, answers for the records of some
keys, and may have its session guarded. What it is in charge of it takes over from the session's
state, from the lock table or from an earlier phase, and hands on in the same way: tables and guards
do not get lost (`Move.share_eq`, `Move.guards_eq`), and but for the one new key of a start nobody
answers for a key for which nobody did (`Move.keys_le`).
-/

namespace QueryAdmission

namespace Session

/-- The key of the active query, if there is one. -/
def keys (s : Session) : Multiset QueryKey :=
  match s.active with
  | some q => {q.key}
  | none => 0

/-- How many calls have the session guarded: one, or none. -/
def guards (s : Session) : Nat := if s.guarded then 1 else 0

lemma keys_of_none {s : Session} (h : s.active = none) : s.keys = 0 := by simp [keys, h]

lemma lockedTables_of_none {s : Session} (h : s.active = none) : s.lockedTables = [] := by
  simp [lockedTables, h]

lemma mem_keys {s : Session} {k : QueryKey} :
    k ∈ s.keys ↔ ∃ locked, s.active = some ⟨k, locked⟩ := by
  rcases ha : s.active with _ | ⟨key, locked⟩
  · simp [keys, ha]
  · simp [keys, ha, eq_comm]

@[simp] lemma keys_guard (s : Session) : s.guard.keys = s.keys := rfl
@[simp] lemma keys_unguard (s : Session) : s.unguard.keys = s.keys := rfl

@[simp] lemma keys_install (s : Session) (key : QueryKey) (locked : List TableId) :
    (s.install key locked).keys = {key} := rfl

@[simp] lemma sequence_guard (s : Session) : s.guard.sequence = s.sequence := rfl
@[simp] lemma sequence_unguard (s : Session) : s.unguard.sequence = s.sequence := rfl

@[simp] lemma lockedTables_install (s : Session) (key : QueryKey) (locked : List TableId) :
    (s.install key locked).lockedTables = locked := rfl
@[simp] lemma lockedTables_guard (s : Session) : s.guard.lockedTables = s.lockedTables := rfl
@[simp] lemma lockedTables_unguard (s : Session) : s.unguard.lockedTables = s.lockedTables := rfl
@[simp] lemma lockedTables_vacate (s : Session) : s.vacate.lockedTables = [] := rfl

@[simp] lemma guards_guard (s : Session) : s.guard.guards = 1 := rfl
@[simp] lemma guards_unguard (s : Session) : s.unguard.guards = 0 := rfl
@[simp] lemma guards_advance (s : Session) : s.advance.guards = s.guards := rfl

lemma guards_eq_zero {s : Session} : s.guards = 0 ↔ s.guarded = false := by simp [guards]

lemma guards_le_one (s : Session) : s.guards ≤ 1 := by
  rw [guards]
  split
  · exact Nat.le_refl 1
  · exact Nat.zero_le 1

end Session

/-! ### Starts -/

namespace Start

variable {w w' : World MemoryHost} {s s' : Session} {c : Start}
  {p : Progress Start (Except Refusal (Option QueryKey))}

/-- The tables that a start has in its hands. -/
def taken (c : Start) : List TableId :=
  match c.phase with
  | .entering | .surveying _ _ => []
  | .admitting _ a => a.taken
  | .finishing _ _ tables | .checking _ tables | .installing _ tables | .undoing _ tables => tables

/-- The key of the query, once the session has been entered. -/
def queryKey? (c : Start) : Option QueryKey :=
  match c.phase with
  | .entering => none
  | .finishing key _ _ | .surveying key _ | .admitting key _ | .checking key _ | .installing key _
  | .undoing key _ => some key

/-- The keys that a start answers for. -/
def keys (c : Start) : Multiset QueryKey :=
  match c.phase with
  | .entering => 0
  | .finishing key stale _ => {key, stale}
  | .surveying key _ | .admitting key _ | .checking key _ | .installing key _ | .undoing key _ =>
    {key}

lemma queryKey?_isSome : c.queryKey?.isSome ↔ c.phase ≠ .entering := by
  rw [queryKey?]
  cases c.phase <;> simp

lemma mem_keys_of_queryKey? {k : QueryKey} (h : c.queryKey? = some k) : k ∈ c.keys := by
  rw [queryKey?] at h
  rw [keys]
  cases hp : c.phase <;> simp_all

/-- Whether a start has its session guarded. -/
def guards (c : Start) : Nat :=
  match c.phase with
  | .installing _ _ | .undoing _ _ => 1
  | _ => 0

/-- A start whose query belongs to its session, and whose admission is that of its query. -/
structure Native (c : Start) : Prop where
  queryKey : ∀ k ∈ c.queryKey?, k.session = c.session
  admission : ∀ key a, c.phase = .admitting key a → a.key = key

/-- A start whose keys are its session's, and whose admission is that of its query. -/
structure Coherent (c : Start) : Prop where
  session_eq : ∀ k ∈ c.keys, k.session = c.session
  admission : ∀ key a, c.phase = .admitting key a →
    a.key = key ∧ ∀ wait, a.phase = .waiting wait → wait.key = key

/-- A start whose session owns what the start has in its hands, and does not own what the start is
about to take. -/
structure Fair (l : LockTable) (c : Start) : Prop where
  owns : ∀ t ∈ c.taken, l.owner t = some c.session
  lacks : ∀ key a t left taken, c.phase = .admitting key a →
    a.phase = .locking (.attempting t left taken) → l.owner t ≠ some c.session

lemma Coherent.native (hc : c.Coherent) : c.Native where
  queryKey _ hk := hc.session_eq _ (mem_keys_of_queryKey? hk)
  admission key a hp := (hc.admission key a hp).1

lemma Native.session_admission (hc : c.Native) {key : QueryKey} {a : Admission}
    (hp : c.phase = .admitting key a) : a.key.session = c.session := by
  rw [hc.admission key a hp]
  apply hc.queryKey
  simp [queryKey?, hp]

lemma Move.apart (h : Move w s c w' s' p) (hc : c.Native) :
    LockTable.Apart c.session w.host.locks w'.host.locks := by
  cases h with
  | barred | ignored | entered | finished | asked | registered | refused | approved | denied
  | installed | failed => rfl
  | returned | unlocked => exact w.host.locks.apart_unlock _ _
  | admission hp hm =>
    rw [← hc.session_admission hp]
    exact hm.apart

/-- A start that is about to take a table has just learned that its session lacks it. -/
lemma Move.lacks (h : Move w s c w' s' p) (hc : c.Coherent) {c' : Start} (hp : p.call? = some c')
    {key : QueryKey} {a : Admission} {t : TableId} {left taken : List TableId}
    (ha : c'.phase = .admitting key a) (ht : a.phase = .locking (.attempting t left taken)) :
    w'.host.locks.owner t ≠ some c.session := by
  cases h with
  | ignored | refused | installed | failed => cases hp
  | barred hq =>
    cases hp
    rcases hq with hq | ⟨_, _, hq⟩ <;> rw [hq] at ha <;> cases ha
  | entered =>
    cases hp
    rcases hs : s.active with _ | q <;> rw [hs] at ha <;> cases ha
  | returned | finished | asked | approved | denied | unlocked =>
    cases hp
    cases ha
  | registered =>
    cases hp
    cases ha
    cases ht
  | @admission _ b p w' hq hm =>
    rw [← hc.native.session_admission hq]
    rcases p with a' | a' | (r | locked)
    · cases hp
      cases ha
      exact hm.lacks rfl ht
    · cases hp
      cases ha
      exact hm.lacks rfl ht
    · cases hp
    · cases hp
      cases ha

lemma taken_relay (c : Start) (key : QueryKey)
    (p : Progress Admission (Except Refusal (List TableId))) :
    (c.relay key p).call?.elim [] taken = Admission.keeps p := by
  rcases p with a | a | (r | locked) <;> rfl

lemma guards_relay (c : Start) (key : QueryKey)
    (p : Progress Admission (Except Refusal (List TableId))) :
    (c.relay key p).call?.elim 0 guards = 0 := by
  rcases p with a | a | (r | locked) <;> rfl

lemma keys_relay (c : Start) (key : QueryKey)
    (p : Progress Admission (Except Refusal (List TableId))) :
    (c.relay key p).call?.elim 0 keys ≤ ({key} : Multiset QueryKey) := by
  rcases p with a | a | (r | locked)
  · exact le_refl _
  · exact le_refl _
  · exact Multiset.zero_le _
  · exact le_refl _

/-- No query comes to be active but when a start lets go of its session. -/
lemma Move.active_eq_none (h : Move w s c w' s' p) (hg : c.guards = 0) (ha : s.active = none) :
    s'.active = none := by
  cases h with
  | barred | ignored | returned | finished | asked | registered | refused | unlocked | admission
  | approved | denied | failed => exact ha
  | entered => rfl
  | installed hp => simp [guards, hp] at hg

/-- A start that has entered its session does not enter it again. -/
lemma Move.entered_of (h : Move w s c w' s' p) {c' : Start} (hp : p.call? = some c')
    (hc : c.phase ≠ .entering) : c'.phase ≠ .entering := by
  intro hc'
  cases h with
  | ignored | refused | installed | failed => cases hp
  | barred =>
    cases hp
    exact hc hc'
  | entered hq => exact hc hq
  | returned | finished | asked | registered | approved | denied | unlocked =>
    cases hp
    cases hc'
  | @admission key a p =>
    rcases p with a' | a' | (r | locked) <;> cases hp <;> cases hc'

/-- While a start goes on, no query is active in its session once the start has entered it. -/
lemma Move.vacant (h : Move w s c w' s' p) {c' : Start} (hp : p.call? = some c')
    (hv : c.phase ≠ .entering → s.active = none) (hc : c'.phase ≠ .entering) :
    s'.active = none := by
  cases h with
  | ignored | refused | installed | failed => cases hp
  | barred =>
    cases hp
    exact hv hc
  | entered => rfl
  | returned hq | finished hq | asked hq | registered hq | unlocked hq | admission hq | approved hq
  | denied hq => exact hv (by simp [hq])

/-- A start that goes on is about the same query, or it has just entered its session and taken the
next key. -/
lemma Move.queryKey?_eq (h : Move w s c w' s' p) {c' : Start} (hp : p.call? = some c') :
    c'.queryKey? = c.queryKey? ∨
      c.phase = .entering ∧ c'.queryKey? = some s.nextKey ∧ s' = s.advance := by
  cases h with
  | ignored | refused | installed | failed => cases hp
  | barred =>
    cases hp
    exact .inl rfl
  | entered hq =>
    cases hp
    right
    refine ⟨hq, ?_, rfl⟩
    rcases ha : s.active with _ | q <;> rfl
  | returned hq | finished hq | asked hq | registered hq | approved hq | denied hq | unlocked hq =>
    cases hp
    left
    simp [queryKey?, inPhase, hq]
  | @admission key a p _ hq =>
    left
    rcases p with a' | a' | (r | locked) <;> cases hp <;> simp [queryKey?, inPhase, hq]

/-- A start that goes on is still one of its session's. -/
lemma Move.native (h : Move w s c w' s' p) (hs : s.id = c.session) (hc : c.Native) {c' : Start}
    (hp : p.call? = some c') : c'.Native := by
  constructor
  · intro k hk
    rw [h.session_eq hp]
    rcases h.queryKey?_eq hp with hq | ⟨-, hq, -⟩
    · exact hc.queryKey k (hq ▸ hk)
    · rw [hq] at hk
      obtain rfl := Option.some.inj hk
      exact hs
  · intro key a ha
    cases h with
    | ignored | refused | installed | failed => cases hp
    | barred =>
      cases hp
      exact hc.admission key a ha
    | entered =>
      cases hp
      rcases hq : s.active with _ | q <;> rw [hq] at ha <;> cases ha
    | returned | finished | asked | approved | denied | unlocked =>
      cases hp
      cases ha
    | registered =>
      cases hp
      cases ha
      rfl
    | @admission key' b p _ hq hm =>
      rcases p with b' | b' | (r | locked)
      · cases hp
        cases ha
        exact (hm.same rfl).1.trans (hc.admission key b hq)
      · cases hp
        cases ha
        exact (hm.same rfl).1.trans (hc.admission key b hq)
      · cases hp
      · cases hp
        cases ha

/-- What the session owns more is what the session's state and the start have in their hands more.
-/
lemma Move.share_eq (h : Move w s c w' s' p) (hc : c.Coherent) (hf : c.Fair w.host.locks)
    (hv : c.phase ≠ .entering → s.active = none) (u : TableId) :
    w'.host.locks.share c.session u + s.lockedTables.count u + c.taken.count u
      = w.host.locks.share c.session u + s'.lockedTables.count u
        + (p.call?.elim [] taken).count u := by
  obtain ⟨owns, lacks⟩ := hf
  cases h with
  | barred => rfl
  | ignored hp => simp [Progress.call?, taken, hp]
  | entered hp =>
    rcases ha : s.active with _ | ⟨key, locked⟩
    · simp [Progress.call?, taken, hp, inPhase, Phase.afterEntry, Session.lockedTables, ha,
        Session.advance]
    · simp [Progress.call?, taken, hp, inPhase, Phase.afterEntry, Session.lockedTables, ha,
        Session.advance]
  | @returned key stale t ts hp | @unlocked key t ts hp =>
    have ht : w.host.locks.owner t = some c.session := owns t (by simp [taken, hp])
    have hu := LockTable.share_unlock (u := u) ht ts
    simp only [Progress.call?, Option.elim_some, taken, hp, inPhase]
    show (w.host.locks.unlock c.session t).share c.session u + _ + _ = _
    omega
  | finished hp | asked hp | registered hp | refused hp | failed hp =>
    simp [Progress.call?, taken, hp, inPhase, Admission.taken, Admission.ofKey]
  | @admission key a p w' hp hm =>
    have hk := hc.native.session_admission hp
    have ht : c.taken = a.taken := by simp [taken, hp]
    have hfair : a.Fair w.host.locks := by
      constructor
      · rwa [← ht, hk]
      · intro t left taken
        rw [hk]
        exact lacks key a t left taken hp
    have hs := hm.share_eq hfair u
    rw [hk] at hs
    rw [taken_relay, ht]
    omega
  | approved hp => simp [Progress.call?, taken, hp, inPhase]
  | denied hp => simp [Progress.call?, taken, hp, inPhase]
  | installed hp =>
    have hn := Session.lockedTables_of_none (hv (by simp [hp]))
    simp [Progress.call?, taken, hp, hn]

lemma Move.guards_eq (h : Move w s c w' s' p) (hg : c.guards ≤ s.guards) :
    s'.guards + c.guards = s.guards + p.call?.elim 0 guards := by
  have hs := s.guards_le_one
  cases h with
  | barred => rfl
  | ignored hp | returned hp | finished hp | asked hp | registered hp | refused hp | unlocked hp =>
    simp [Progress.call?, guards, hp, inPhase]
  | entered hp =>
    rcases ha : s.active with _ | q <;>
      simp [Progress.call?, guards, hp, inPhase, Phase.afterEntry]
  | admission hp =>
    rw [guards_relay]
    simp [guards, hp]
  | approved hp hg | denied hp hg =>
    simp [Progress.call?, guards, hp, inPhase, Session.guards_eq_zero.2 hg]
  | installed hp | failed hp =>
    have hc : c.guards = 1 := by simp [guards, hp]
    simp [Progress.call?, hc]
    omega

/-- Nobody comes to answer for a key for which nobody answered, except for the session's next key
when the start enters the session. -/
lemma Move.keys_le (h : Move w s c w' s' p) :
    s'.keys + p.call?.elim 0 keys ≤ s.keys + c.keys ∧ s'.sequence = s.sequence ∨
      s'.keys + p.call?.elim 0 keys = s.nextKey ::ₘ (s.keys + c.keys) ∧
        s'.sequence = s.sequence + 1 := by
  cases h with
  | barred => exact .inl ⟨le_refl _, rfl⟩
  | entered hp =>
    right
    rcases ha : s.active with _ | ⟨key, locked⟩
    · simp [Progress.call?, keys, hp, inPhase, Phase.afterEntry, Session.keys, ha, Session.advance]
    · simp [Progress.call?, keys, hp, inPhase, Phase.afterEntry, Session.keys, ha, Session.advance]
  | ignored hp | returned hp | asked hp | registered hp | unlocked hp | approved hp | denied hp =>
    left
    simp [Progress.call?, keys, hp, inPhase]
  | refused hp | failed hp =>
    left
    exact ⟨add_le_add_right (Multiset.zero_le c.keys) s.keys, rfl⟩
  | @finished key stale hp =>
    left
    refine ⟨add_le_add_right ?_ s.keys, rfl⟩
    have hk : c.keys = {key} + {stale} := by simp [keys, hp]
    rw [hk]
    exact Multiset.le_add_right _ _
  | @admission key a p w' hp =>
    left
    refine ⟨add_le_add_right ?_ s.keys, rfl⟩
    have hk : c.keys = {key} := by simp [keys, hp]
    rw [hk]
    exact c.keys_relay key p
  | @installed key locked hp =>
    left
    have hk : c.keys = {key} := by simp [keys, hp]
    rw [hk, add_comm s.keys]
    exact ⟨add_le_add_right (Multiset.zero_le s.keys) {key}, rfl⟩

/-- A query that was active still is, or the start answers for its key. -/
lemma Move.keys_kept (h : Move w s c w' s' p) (hv : c.phase ≠ .entering → s.active = none)
    {k : QueryKey} (hk : k ∈ s.keys) : k ∈ s'.keys + p.call?.elim 0 keys := by
  cases h with
  | barred | ignored | returned | finished | asked | registered | refused | unlocked | admission
  | approved | denied | failed => exact Multiset.mem_add.2 (.inl hk)
  | entered =>
    obtain ⟨locked, ha⟩ := Session.mem_keys.1 hk
    simp [Progress.call?, keys, inPhase, ha, Phase.afterEntry]
  | installed hp =>
    rw [Session.keys_of_none (hv (by simp [hp]))] at hk
    exact absurd hk (Multiset.notMem_zero k)

end Start

/-! ### Ends -/

namespace Finish

variable {w w' : World MemoryHost} {s s' : Session} {c : Finish} {p : Progress Finish Unit}

/-- The tables that an end has in its hands. -/
def taken (c : Finish) : List TableId :=
  match c.phase with
  | .taking => []
  | .releasing left => left

/-- The keys that an end answers for. -/
def keys (c : Finish) : Multiset QueryKey :=
  match c.phase with
  | .taking => 0
  | .releasing _ => {c.key}

lemma Move.share_eq (h : Move w s c w' s' p)
    (hf : ∀ t ∈ c.taken, w.host.locks.owner t = some c.session) (u : TableId) :
    w'.host.locks.share c.session u + s.lockedTables.count u + c.taken.count u
      = w.host.locks.share c.session u + s'.lockedTables.count u
        + (p.call?.elim [] taken).count u := by
  cases h with
  | barred => rfl
  | idle hp => simp [Progress.call?, taken, hp]
  | took hp _ ha => simp [Progress.call?, taken, hp, Session.lockedTables, ha, Session.vacate]
  | @returned t ts hp =>
    have hu := LockTable.share_unlock (u := u) (hf t (by simp [taken, hp])) ts
    simp only [Progress.call?, Option.elim_some, taken, hp]
    show (w.host.locks.unlock c.session t).share c.session u + _ + _ = _
    omega
  | completed hp => simp [Progress.call?, taken, hp]

lemma Move.guards_eq (h : Move w s c w' s' p) : s'.guards = s.guards := by
  cases h <;> rfl

lemma Move.active_eq_none (h : Move w s c w' s' p) (ha : s.active = none) : s'.active = none := by
  cases h with
  | barred | idle | returned | completed => exact ha
  | took => rfl

/-- An end takes no table. -/
lemma Move.owner_of (h : Move w s c w' s' p) {t : TableId} {o : SessionId}
    (ho : w'.host.locks.owner t = some o) : w.host.locks.owner t = some o := by
  cases h with
  | barred | idle | took | completed => exact ho
  | returned => exact LockTable.owner_of_unlock ho

lemma Move.keys_le (h : Move w s c w' s' p) :
    s'.keys + p.call?.elim 0 keys ≤ s.keys + c.keys ∧ s'.sequence = s.sequence := by
  cases h with
  | barred => exact ⟨le_refl _, rfl⟩
  | idle hp | returned hp => simp [Progress.call?, keys, hp]
  | took hp _ ha => simp [Progress.call?, keys, hp, Session.keys, ha, Session.vacate]
  | completed => exact ⟨add_le_add_right (Multiset.zero_le c.keys) s.keys, rfl⟩

/-- A query that was active still is, or the end answers for its key. -/
lemma Move.keys_kept (h : Move w s c w' s' p) {k : QueryKey} (hk : k ∈ s.keys) :
    k ∈ s'.keys + p.call?.elim 0 keys := by
  cases h with
  | barred | idle | returned | completed => exact Multiset.mem_add.2 (.inl hk)
  | took hp _ ha =>
    obtain ⟨locked, ha'⟩ := Session.mem_keys.1 hk
    rw [ha] at ha'
    cases ha'
    simp [Progress.call?, keys]

end Finish

/-! ### Aborts -/

namespace Abort

variable {w w' : World MemoryHost} {s s' : Session} {c : Abort} {p : Progress Abort Unit}

/-- The tables that an abort has in its hands. -/
def taken (c : Abort) : List TableId :=
  match c.phase with
  | .taking => []
  | .releasing left => left

/-- Whether an abort has its session guarded. It is about to sweep the session's records then. -/
def guards (c : Abort) : Nat :=
  match c.phase with
  | .taking => 0
  | .releasing _ => 1

lemma guards_le_one (c : Abort) : c.guards ≤ 1 := by
  rw [guards]
  split
  · exact Nat.zero_le 1
  · exact Nat.le_refl 1

lemma Move.share_eq (h : Move w s c w' s' p)
    (hf : ∀ t ∈ c.taken, w.host.locks.owner t = some c.session) (u : TableId) :
    w'.host.locks.share c.session u + s.lockedTables.count u + c.taken.count u
      = w.host.locks.share c.session u + s'.lockedTables.count u
        + (p.call?.elim [] taken).count u := by
  cases h with
  | barred => rfl
  | took hp => simp [Progress.call?, taken, hp]
  | @returned t ts hp =>
    have hu := LockTable.share_unlock (u := u) (hf t (by simp [taken, hp])) ts
    simp only [Progress.call?, Option.elim_some, taken, hp]
    show (w.host.locks.unlock c.session t).share c.session u + _ + _ = _
    omega
  | swept hp => simp [Progress.call?, taken, hp]

lemma Move.guards_eq (h : Move w s c w' s' p) (hg : c.guards ≤ s.guards) :
    s'.guards + c.guards = s.guards + p.call?.elim 0 guards := by
  have hs := s.guards_le_one
  cases h with
  | barred => rfl
  | took hp hg => simp [Progress.call?, guards, hp, Session.guards_eq_zero.2 hg]
  | returned hp => simp [Progress.call?, guards, hp]
  | swept hp =>
    have hc : c.guards = 1 := by simp [guards, hp]
    simp [Progress.call?, hc]
    omega

lemma Move.active_eq_none (h : Move w s c w' s' p) (ha : s.active = none) : s'.active = none := by
  cases h with
  | barred | returned | swept => exact ha
  | took => rfl

/-- An abort takes no table. -/
lemma Move.owner_of (h : Move w s c w' s' p) {t : TableId} {o : SessionId}
    (ho : w'.host.locks.owner t = some o) : w.host.locks.owner t = some o := by
  cases h with
  | barred | took | swept => exact ho
  | returned => exact LockTable.owner_of_unlock ho

lemma Move.keys_le (h : Move w s c w' s' p) : s'.keys ≤ s.keys ∧ s'.sequence = s.sequence := by
  cases h with
  | barred | returned => exact ⟨le_refl _, rfl⟩
  | took => exact ⟨Multiset.zero_le _, rfl⟩
  | swept => simp

/-- A query that was active still is, or the abort is about to sweep the session's records. -/
lemma Move.keys_kept (h : Move w s c w' s' p) {k : QueryKey} (hk : k ∈ s.keys) :
    k ∈ s'.keys ∨ 0 < p.call?.elim 0 guards := by
  cases h with
  | barred | returned | swept => exact .inl hk
  | took => exact .inr Nat.one_pos

end Abort

end QueryAdmission
