import QueryAdmission.Call
import QueryAdmission.Proofs.Standing

/-!
# What goes on in a session

Beside starts, ends and aborts, executions and utility commands go on in a session. An execution is
a start whose query is executed after it: the session goes into the execution, comes out of it at
any later time, and then the end of its query is reported, if it was scheduled. A session is closed
by an abort after which it is forgotten. The account of what calls are in charge of is extended to
all of these.
-/

namespace QueryAdmission

open Status (MayAdmit)

/-- Something that goes on in a session. -/
inductive Activity where
  /-- A start, with an execution after it or without one. -/
  | start (call : Start) (executes : Bool)
  /-- About to go into an execution; with the key of its query, if that is scheduled. -/
  | entering (session : SessionId) (key : Option QueryKey)
  /-- Inside an execution. -/
  | inside (session : SessionId) (key : Option QueryKey)
  | finish (call : Finish)
  /-- An abort, by itself or because the session is closed. -/
  | abort (call : Abort) (closes : Bool)
  /-- A utility command, about to be opened or, once it is known what was before, to be closed. -/
  | utility (session : SessionId) (before : Option Bool)
  deriving DecidableEq, Repr

namespace Activity

/-- The session in which it goes on. -/
def session : Activity → SessionId
  | start c _ => c.session
  | finish c => c.session
  | abort c _ => c.session
  | entering id _ | inside id _ | utility id _ => id

/-- Whether it has only just been begun. -/
def isFresh : Activity → Bool
  | start c _ => c.phase = .entering
  | finish c => c.phase = .taking
  | abort c _ => c.phase = .taking
  | utility _ none => true
  | entering _ _ | inside _ _ | utility _ (some _) => false

@[simp] lemma isFresh_start {c : Start} {executes : Bool} :
    (start c executes).isFresh ↔ c.phase = .entering := by
  simp [isFresh]

/-- Whether it is a start. -/
def isStart : Activity → Bool
  | start _ _ => true
  | _ => false

/-- Whether it is the end of a query. -/
def isFinish : Activity → Bool
  | finish _ => true
  | _ => false

/-- Whether the session is closed by it. -/
def closes : Activity → Bool
  | abort _ closes => closes
  | _ => false

/-- A start goes on, or an execution may follow it. -/
def ofStart (session : SessionId) (executes : Bool) :
    Progress Start (Except Refusal (Option QueryKey)) →
      Progress Activity (Except Refusal Reply)
  | .next c => .next (start c executes)
  | .sleep c => .sleep (start c executes)
  | .done (.ok key) => if executes then .next (entering session key) else .done (.ok (.started key))
  | .done (.error r) => .done (.error r)

/-- What follows an execution: the end of its query is reported, if it is scheduled. -/
def ofExecution (session : SessionId) : Option QueryKey → Progress Activity (Except Refusal Reply)
  | some key => .next (finish (.ofKey session key))
  | none => .done (.ok .settled)

/-- A call of which nothing follows goes on. -/
def ofCall {γ : Type} (around : γ → Activity) :
    Progress γ Unit → Progress Activity (Except Refusal Reply)
  | .next c => .next (around c)
  | .sleep c => .sleep (around c)
  | .done () => .done (.ok .settled)

/-- Carry out the next section. -/
def advance {σ : Type} [Catalogue σ] [Locking σ] (world : World σ) (a : Activity) :
    World σ × Progress Activity (Except Refusal Reply) :=
  match a with
  | start c executes => ((c.advance world).1, ofStart c.session executes (c.advance world).2)
  | finish c => ((c.advance world).1, ofCall finish (c.advance world).2)
  | abort c closes => ((c.advance world).1, ofCall (abort · closes) (c.advance world).2)
  | entering id key =>
    if world.isGuarded id then (world, .sleep a)
    else (world.update id Session.enter, .next (inside id key))
  | inside id key =>
    if world.isGuarded id then (world, .sleep a)
    else (world.update id Session.leave, ofExecution id key)
  | utility id none =>
    if world.isGuarded id then (world, .sleep a)
    else (world.update id (·.setUtility true), .next (utility id (some (world.inUtility id))))
  | utility id (some before) =>
    if world.isGuarded id then (world, .sleep a)
    else (world.update id (·.setUtility before), .done (.ok .settled))

/-! ### What activities are in charge of -/

/-- The tables that it has in its hands. -/
def taken : Activity → List TableId
  | start c _ => c.taken
  | finish c => c.taken
  | abort c _ => c.taken
  | entering _ _ | inside _ _ | utility _ _ => []

/-- The keys that it answers for. -/
def keys : Activity → Multiset QueryKey
  | start c _ => c.keys
  | finish c => c.keys
  | abort _ _ | entering _ _ | inside _ _ | utility _ _ => 0

/-- Whether it has the session guarded. -/
def guards : Activity → Nat
  | start c _ => c.guards
  | abort c _ => c.guards
  | finish _ | entering _ _ | inside _ _ | utility _ _ => 0

/-- Whether it is about to sweep the session's records. -/
def sweeps : Activity → Nat
  | abort c _ => c.guards
  | start _ _ | finish _ | entering _ _ | inside _ _ | utility _ _ => 0

/-- Whether it is in charge of nothing, and no start. -/
structure Light (a : Activity) : Prop where
  taken : a.taken = []
  keys : a.keys = 0
  guards : a.guards = 0
  sweeps : a.sweeps = 0
  isStart : a.isStart = false
  closes : a.closes = false

/-- A change of a session in what executions and utility commands are for, and in nothing else. -/
def IsBracket (f : Session → Session) : Prop :=
  ∀ s, ∃ nesting inUtility, f s = { s with nesting, inUtility }

/-- The sections of what goes on in a session. -/
inductive Move (w : World MemoryHost) (s : Session) :
    Activity → World MemoryHost → Session → Option Activity → Prop
  | start {c : Start} {executes : Bool} {w' : World MemoryHost} {s' : Session}
      {p : Progress Start (Except Refusal (Option QueryKey))} (h : c.Move w s w' s' p) :
      Move w s (.start c executes) w' s' (ofStart c.session executes p).call?
  | finish {c : Finish} {w' : World MemoryHost} {s' : Session} {p : Progress Finish Unit}
      (h : c.Move w s w' s' p) : Move w s (.finish c) w' s' (ofCall finish p).call?
  | abort {c : Abort} {closes : Bool} {w' : World MemoryHost} {s' : Session}
      {p : Progress Abort Unit} (h : c.Move w s w' s' p) :
      Move w s (.abort c closes) w' s' (ofCall (abort · closes) p).call?
  | bracket {a : Activity} {a' : Option Activity} {f : Session → Session} (ha : a.Light)
      (ha' : ∀ b ∈ a', b.Light ∧ b.session = a.session) (hf : IsBracket f) :
      Move w s a (w.update a.session f) (f s) a'

variable {w w' : World MemoryHost} {s s' : Session} {a b : Activity} {a' : Option Activity}

lemma isBracket_id : IsBracket id := fun s => ⟨s.nesting, s.inUtility, rfl⟩

lemma isBracket_enter : IsBracket Session.enter := fun s => ⟨s.nesting + 1, s.inUtility, rfl⟩

lemma isBracket_leave : IsBracket Session.leave := fun s => ⟨s.nesting - 1, s.inUtility, rfl⟩

lemma isBracket_setUtility (inUtility : Bool) : IsBracket (·.setUtility inUtility) :=
  fun s => ⟨s.nesting, inUtility, rfl⟩

/-- An activity that finds its session guarded comes back later. -/
lemma move_barred (ha : a.Light) : Move w s a w s (some a) := by
  have h : Move w s a (w.update a.session id) (id s) (some a) :=
    .bracket ha (by simp [ha]) isBracket_id
  have hw : w.update a.session id = w := by simp [World.update]
  rwa [hw] at h

/-- Every section is one of these. -/
lemma move_advance (hs : w.session? a.session = some s) :
    ∃ s', Move w s a (a.advance w).1 s' (a.advance w).2.call? := by
  cases a with
  | start c executes =>
    obtain ⟨s', h⟩ := Start.move_advance hs
    exact ⟨s', .start h⟩
  | finish c =>
    obtain ⟨s', h⟩ := Finish.move_advance hs
    exact ⟨s', .finish h⟩
  | abort c closes =>
    obtain ⟨s', h⟩ := Abort.move_advance hs
    exact ⟨s', .abort h⟩
  | entering id key =>
    have hl : (entering id key).Light := ⟨rfl, rfl, rfl, rfl, rfl, rfl⟩
    by_cases hg : w.isGuarded id = true
    · simp only [advance, hg, if_true]
      exact ⟨s, move_barred hl⟩
    · simp only [advance, hg]
      refine ⟨_, .bracket hl ?_ isBracket_enter⟩
      simp [Progress.call?]
      exact ⟨⟨rfl, rfl, rfl, rfl, rfl, rfl⟩, rfl⟩
  | inside id key =>
    have hl : (inside id key).Light := ⟨rfl, rfl, rfl, rfl, rfl, rfl⟩
    by_cases hg : w.isGuarded id = true
    · simp only [advance, hg, if_true]
      exact ⟨s, move_barred hl⟩
    · simp only [advance, hg]
      refine ⟨_, .bracket hl ?_ isBracket_leave⟩
      cases key with
      | none => simp [ofExecution, Progress.call?]
      | some key =>
        simp [ofExecution, Progress.call?]
        exact ⟨⟨rfl, rfl, rfl, rfl, rfl, rfl⟩, rfl⟩
  | utility id before =>
    have hl (before : Option Bool) : (utility id before).Light := ⟨rfl, rfl, rfl, rfl, rfl, rfl⟩
    cases before with
    | none =>
      by_cases hg : w.isGuarded id = true
      · simp only [advance, hg, if_true]
        exact ⟨s, move_barred (hl none)⟩
      · simp only [advance, hg]
        refine ⟨_, .bracket (hl none) ?_ (isBracket_setUtility true)⟩
        simp [Progress.call?]
        exact ⟨hl _, rfl⟩
    | some before =>
      by_cases hg : w.isGuarded id = true
      · simp only [advance, hg, if_true]
        exact ⟨s, move_barred (hl (some before))⟩
      · simp only [advance, hg]
        refine ⟨_, .bracket (hl (some before)) ?_ (isBracket_setUtility before)⟩
        simp [Progress.call?]

lemma Move.ids_eq (h : Move w s a w' s' a') : w'.ids = w.ids := by
  cases h with
  | start h => exact h.ids_eq
  | finish h => exact h.ids_eq
  | abort h => exact h.ids_eq
  | bracket ha ha' hf =>
    apply World.ids_update w _
    intro s
    obtain ⟨n, u, h⟩ := hf s
    rw [h]

lemma Move.alike (h : Move w s a w' s' a') : w.service.Alike w'.service := by
  cases h with
  | start h => exact h.alike
  | finish h => exact h.alike
  | abort h => exact h.alike
  | bracket => rfl

lemma sweeps_le_guards (a : Activity) : a.sweeps ≤ a.guards := by
  cases a with
  | abort => exact Nat.le_refl _
  | start | finish | entering | inside | utility => exact Nat.zero_le _

/-! ### The account of all activities -/

lemma elim_ofStart {β : Type} (f : Activity → β) (z : β) (hf : ∀ a, a.Light → f a = z)
    (id : SessionId) (executes : Bool) (p : Progress Start (Except Refusal (Option QueryKey))) :
    (ofStart id executes p).call?.elim z f = p.call?.elim z fun c => f (start c executes) := by
  rcases p with c | c | (r | key)
  · rfl
  · rfl
  · rfl
  · cases executes with
    | false => rfl
    | true => exact hf _ ⟨rfl, rfl, rfl, rfl, rfl, rfl⟩

lemma elim_ofCall {β γ : Type} (f : Activity → β) (z : β) (around : γ → Activity)
    (p : Progress γ Unit) :
    (ofCall around p).call?.elim z f = p.call?.elim z fun c => f (around c) := by
  rcases p with c | c | ⟨⟩ <;> rfl

lemma call?_ofStart {id : SessionId} {executes : Bool} {c : Start}
    {p : Progress Start (Except Refusal (Option QueryKey))} (h : p.call? = some c) :
    (ofStart id executes p).call? = some (start c executes) := by
  rcases p with c | c | r <;> cases h <;> rfl

lemma call?_ofCall {γ : Type} (around : γ → Activity) {c : γ} {p : Progress γ Unit}
    (h : p.call? = some c) : (ofCall around p).call? = some (around c) := by
  rcases p with c | c | r <;> cases h <;> rfl

/-- What a light activity leads to is in charge of nothing. -/
lemma elim_of_light {β : Type} (f : Activity → β) (z : β) (hf : ∀ a, a.Light → f a = z)
    (ha' : ∀ b ∈ a', b.Light ∧ b.session = a.session) : a'.elim z f = z := by
  cases a' with
  | none => rfl
  | some b => exact hf b (ha' b rfl).1

lemma mem_ofStart {id : SessionId} {executes : Bool}
    {p : Progress Start (Except Refusal (Option QueryKey))}
    (h : b ∈ (ofStart id executes p).call?) :
    (∃ c, p.call? = some c ∧ b = start c executes) ∨ ∃ key, b = entering id key := by
  rcases p with c | c | (r | key)
  · cases h
    exact .inl ⟨c, rfl, rfl⟩
  · cases h
    exact .inl ⟨c, rfl, rfl⟩
  · cases h
  · cases executes with
    | false => cases h
    | true =>
      cases h
      exact .inr ⟨key, rfl⟩

/-- A start that no execution follows goes on as such a start. -/
lemma exists_start_of_advance {c : Start} (h : ((start c false).advance w).2.call? = some b) :
    ∃ c', b = start c' false ∧ c'.session = c.session := by
  have hb : ∃ c', (c.advance w).2.call? = some c' ∧ b = start c' false := by
    change (ofStart c.session false (c.advance w).2).call? = some b at h
    rcases hp : (c.advance w).2 with c' | c' | (r | key) <;> rw [hp] at h <;> cases h
    · exact ⟨c', rfl, rfl⟩
    · exact ⟨c', rfl, rfl⟩
  obtain ⟨c', hc, rfl⟩ := hb
  rcases c.exists_move w with hm | ⟨s, s', -, hm⟩
  · rw [hm] at hc
    cases hc
  · exact ⟨c', rfl, hm.session_eq hc⟩

lemma mem_ofCall {γ : Type} {around : γ → Activity} {p : Progress γ Unit}
    (h : b ∈ (ofCall around p).call?) : ∃ c, p.call? = some c ∧ b = around c := by
  rcases p with c | c | ⟨⟩
  · cases h
    exact ⟨c, rfl, rfl⟩
  · cases h
    exact ⟨c, rfl, rfl⟩
  · cases h

/-- It goes on in the same session, which is closed by it or not as before, and a start does not
come of anything else. -/
lemma Move.same (h : Move w s a w' s' a') (hb : b ∈ a') :
    b.session = a.session ∧ b.closes = a.closes ∧ (b.isStart → a.isStart) := by
  cases h with
  | start h =>
    obtain ⟨c', hc, rfl⟩ | ⟨key, rfl⟩ := mem_ofStart hb
    · exact ⟨h.session_eq hc, rfl, fun _ => rfl⟩
    · exact ⟨rfl, rfl, fun _ => rfl⟩
  | finish h =>
    obtain ⟨c', hc, rfl⟩ := mem_ofCall hb
    exact ⟨h.session_eq hc, rfl, id⟩
  | abort h =>
    obtain ⟨c', hc, rfl⟩ := mem_ofCall hb
    exact ⟨h.session_eq hc, rfl, id⟩
  | bracket ha ha' =>
    obtain ⟨hl, hs⟩ := ha' b hb
    refine ⟨hs, hl.closes.trans ha.closes.symm, ?_⟩
    rw [hl.isStart]
    exact fun h => absurd h Bool.false_ne_true

lemma Move.id_eq (h : Move w s a w' s' a') : s'.id = s.id := by
  cases h with
  | start h => cases h <;> rfl
  | finish h => cases h <;> rfl
  | abort h => cases h <;> rfl
  | bracket _ _ hf =>
    obtain ⟨n, v, h⟩ := hf s
    rw [h]

lemma Move.session?_eq (h : Move w s a w' s' a') (hs : w.session? a.session = some s) :
    w'.session? a.session = some s' := by
  cases h with
  | start h => exact h.session?_eq hs
  | finish h => exact h.session?_eq hs
  | abort h => exact h.session?_eq hs
  | bracket ha ha' hf =>
    refine World.session?_update_self hs fun s => ?_
    obtain ⟨n, u, h⟩ := hf s
    rw [h]

lemma Move.session?_ne (h : Move w s a w' s' a') {other : SessionId} (ho : other ≠ a.session) :
    w'.session? other = w.session? other := by
  cases h with
  | start h => exact h.session?_ne ho
  | finish h => exact h.session?_ne ho
  | abort h => exact h.session?_ne ho
  | bracket ha ha' hf =>
    refine World.session?_update_ne w ho fun s => ?_
    obtain ⟨n, u, h⟩ := hf s
    rw [h]

end Activity

/-! ### Starts that fit their session -/

/-- A start that fits the roster: the keys in it belong together, and the queries of its phase have
no record or one of the status that is due in that phase. -/
structure Start.FitsRoster (w : World MemoryHost) (c : Start) : Prop where
  coherent : c.Coherent
  fits : c.phase.Fits w.service.status?

/-- A start that fits its session as well as the roster: no query is active there once the start
has entered it, and the table that is tried next is not the session's yet. -/
structure Start.FitsSession (w : World MemoryHost) (s : Session) (c : Start) : Prop where
  coherent : c.Coherent
  fits : c.phase.Fits w.service.status?
  vacant : c.phase ≠ .entering → s.active = none
  lacks : ∀ key a t left taken, c.phase = .admitting key a →
    a.phase = .locking (.attempting t left taken) → w.host.locks.owner t ≠ some c.session

namespace Activity

variable {w w' : World MemoryHost} {s s' : Session} {a b : Activity} {a' : Option Activity}
  {k : QueryKey}

/-- An activity that fits the roster, if it is a start. -/
def FitsRoster (w : World MemoryHost) : Activity → Prop
  | start c _ => c.FitsRoster w
  | _ => True

/-- An activity that fits its session, if it is a start. -/
def FitsSession (w : World MemoryHost) (s : Session) : Activity → Prop
  | start c _ => c.FitsSession w s
  | _ => True

/-- An activity around which no query is active in the session, if it is a start that has entered
it. -/
def Vacant (s : Session) : Activity → Prop
  | start c _ => c.phase ≠ .entering → s.active = none
  | _ => True

lemma FitsSession.fitsRoster (ho : a.FitsSession w s) : a.FitsRoster w := by
  cases a with
  | start c executes => exact ⟨ho.coherent, ho.fits⟩
  | entering | inside | finish | abort | utility => trivial

lemma FitsSession.vacant (ho : a.FitsSession w s) : a.Vacant s := by
  cases a with
  | start c executes => exact Start.FitsSession.vacant ho
  | entering | inside | finish | abort | utility => trivial

lemma vacant_of_isStart (ha : a.isStart = false) (s : Session) : a.Vacant s := by
  cases a with
  | start => cases ha
  | entering | inside | finish | abort | utility => trivial

lemma Move.apart (h : Move w s a w' s' a') (ho : a.FitsRoster w) :
    LockTable.Apart a.session w.host.locks w'.host.locks := by
  cases h with
  | start h => exact h.apart ho.coherent.native
  | finish h => exact h.apart
  | abort h => exact h.apart
  | bracket => rfl

/-- Only starts take tables. -/
lemma Move.owner_of (h : Move w s a w' s' a') (ha : a.isStart = false) {t : TableId}
    {o : SessionId} (ho : w'.host.locks.owner t = some o) : w.host.locks.owner t = some o := by
  cases h with
  | start => cases ha
  | finish h => exact h.owner_of ho
  | abort h => exact h.owner_of ho
  | bracket => exact ho

lemma Move.share_eq (h : Move w s a w' s' a') (ho : a.FitsSession w s)
    (hw : ∀ t ∈ a.taken, w.host.locks.owner t = some a.session) (u : TableId) :
    w'.host.locks.share a.session u + s.lockedTables.count u + a.taken.count u
      = w.host.locks.share a.session u + s'.lockedTables.count u
        + (a'.elim [] taken).count u := by
  cases h with
  | start h =>
    rw [elim_ofStart taken [] fun _ h => h.taken]
    exact h.share_eq ho.coherent ⟨hw, ho.lacks⟩ ho.vacant u
  | finish h =>
    rw [elim_ofCall]
    exact h.share_eq hw u
  | abort h =>
    rw [elim_ofCall]
    exact h.share_eq hw u
  | @bracket a a' f ha ha' hf =>
    obtain ⟨n, v, h⟩ := hf s
    rw [elim_of_light taken [] (fun _ h => h.taken) ha', ha.taken, h]
    rfl

lemma Move.guards_eq (h : Move w s a w' s' a') (hg : a.guards ≤ s.guards) :
    s'.guards + a.guards = s.guards + a'.elim 0 guards := by
  cases h with
  | start h =>
    rw [elim_ofStart guards 0 fun _ h => h.guards]
    exact h.guards_eq hg
  | finish h =>
    rw [elim_ofCall, h.guards_eq]
    exact congrArg (s.guards + ·) (by cases h <;> rfl)
  | abort h =>
    rw [elim_ofCall]
    exact h.guards_eq hg
  | @bracket a a' f ha ha' hf =>
    obtain ⟨n, v, h⟩ := hf s
    rw [elim_of_light guards 0 (fun _ h => h.guards) ha', ha.guards, h]
    rfl

lemma Move.keys_le (h : Move w s a w' s' a') :
    s'.keys + a'.elim 0 keys ≤ s.keys + a.keys ∧ s'.sequence = s.sequence ∨
      s'.keys + a'.elim 0 keys = s.nextKey ::ₘ (s.keys + a.keys) ∧
        s'.sequence = s.sequence + 1 := by
  cases h with
  | start h =>
    rw [elim_ofStart keys 0 fun _ h => h.keys]
    exact h.keys_le
  | finish h =>
    rw [elim_ofCall]
    exact .inl h.keys_le
  | @abort c closes w' s' p h =>
    have hz : p.call?.elim 0 (fun c => keys (.abort c closes)) = 0 := by cases h <;> rfl
    rw [elim_ofCall, hz, add_zero, keys, add_zero]
    exact .inl h.keys_le
  | @bracket a a' f ha ha' hf =>
    obtain ⟨n, v, h⟩ := hf s
    rw [elim_of_light keys 0 (fun _ h => h.keys) ha', ha.keys, h]
    exact .inl ⟨le_refl _, rfl⟩

lemma Move.active_eq_none (h : Move w s a w' s' a') (hg : a.guards = 0 ∨ 0 < a.sweeps)
    (hs : s.active = none) : s'.active = none := by
  cases h with
  | start h => exact h.active_eq_none (hg.resolve_right (Nat.lt_irrefl 0)) hs
  | finish h => exact h.active_eq_none hs
  | abort h => exact h.active_eq_none hs
  | @bracket a a' f ha ha' hf =>
    obtain ⟨n, v, h⟩ := hf s
    rw [h]
    exact hs

/-- The session's active query stays so, or the activity answers for its key from now on, or will
sweep its record away. -/
lemma Move.keys_kept (h : Move w s a w' s' a') (hv : a.Vacant s) (hk : k ∈ s.keys) :
    k ∈ s'.keys + a'.elim 0 keys ∨ 0 < a'.elim 0 sweeps := by
  cases h with
  | start h =>
    rw [elim_ofStart keys 0 fun _ h => h.keys]
    exact .inl (h.keys_kept hv hk)
  | finish h =>
    rw [elim_ofCall]
    exact .inl (h.keys_kept hk)
  | abort h =>
    rw [elim_ofCall, elim_ofCall]
    exact (h.keys_kept hk).imp_left fun hk => Multiset.mem_add.2 (.inl hk)
  | @bracket a a' f ha ha' hf =>
    obtain ⟨n, v, h⟩ := hf s
    rw [h]
    exact .inl (Multiset.mem_add.2 (.inl hk))

/-- A query that comes to be active runs. -/
lemma Move.mem_keys (h : Move w s a w' s' a') (ho : a.FitsRoster w) (hk : k ∈ s'.keys) :
    k ∈ s.keys ∨ w'.service.status? k = some .running := by
  cases h with
  | start h => exact h.mem_keys ho.fits hk
  | finish h =>
    cases h with
    | barred | idle | returned | completed => exact .inl hk
    | took => cases hk
  | abort h => exact .inl (Multiset.mem_of_le h.keys_le.1 hk)
  | @bracket a a' f ha ha' hf =>
    obtain ⟨n, v, h⟩ := hf s
    rw [h] at hk
    exact .inl hk

lemma Move.mayAdmit (h : Move w s a w' s' a') (hw : w.service.Sound) (ho : a.FitsRoster w)
    (hk : k ∉ a.keys) (hs : k.session ≠ a.session ∨ a.sweeps = 0 ∨ 0 < a'.elim 0 sweeps) :
    MayAdmit (w.service.status? k) (w'.service.status? k) := by
  cases h with
  | start h => exact h.mayAdmit hw ho.coherent hk
  | finish h => exact h.mayAdmit hw hk
  | abort h =>
    rw [elim_ofCall] at hs
    exact h.mayAdmit hw hs
  | bracket => rfl

lemma Move.sound (h : Move w s a w' s' a') (hw : w.service.Sound) (ho : a.FitsRoster w) :
    w'.service.Sound := by
  cases h with
  | start h => exact h.sound hw ho.coherent ho.fits
  | finish h => exact h.sound hw
  | abort h => exact h.sound hw
  | bracket => exact hw

/-- A key is not dropped before its record is gone. -/
lemma Move.dropped (h : Move w s a w' s' a') (ho : a.FitsRoster w) (hk : k ∈ a.keys)
    (hd : k ∉ s'.keys + a'.elim 0 keys) : w'.service.status? k = none := by
  cases h with
  | start h =>
    rw [elim_ofStart keys 0 fun _ h => h.keys] at hd
    exact h.dropped ho.coherent ho.fits hk hd
  | finish h =>
    rw [elim_ofCall] at hd
    exact h.dropped hk hd
  | abort => cases hk
  | bracket ha =>
    rw [ha.keys] at hk
    cases hk

/-- When a sweep is over, none of the session's records is left. -/
lemma Move.swept (h : Move w s a w' s' a') (hs : 0 < a.sweeps) (hn : a'.elim 0 sweeps = 0)
    (hk : k.session = a.session) : w'.service.status? k = none := by
  cases h with
  | start | finish => cases hs
  | @abort c closes w' s' p h =>
    rw [elim_ofCall] at hn
    exact h.dropped (Nat.le_antisymm c.guards_le_one hs) hn hk
  | bracket ha =>
    rw [ha.sweeps] at hs
    cases hs

/-- Whoever comes to be about to sweep leaves the session without an active query. -/
lemma Move.sweeps (h : Move w s a w' s' a') (hn : 0 < a'.elim 0 sweeps)
    (hq : 0 < a.sweeps → s.active = none) : s'.active = none := by
  cases h with
  | @start c executes w' s' p h =>
    rw [elim_ofStart sweeps 0 fun _ h => h.sweeps] at hn
    rcases hp : p.call? with _ | c' <;> rw [hp] at hn <;> cases hn
  | @finish c w' s' p h =>
    rw [elim_ofCall] at hn
    rcases hp : p.call? with _ | c' <;> rw [hp] at hn <;> cases hn
  | abort h =>
    rw [elim_ofCall] at hn
    cases h with
    | barred => exact hq hn
    | took => rfl
    | returned hp => exact hq (by simp [Activity.sweeps, Abort.guards, hp])
    | swept => cases hn
  | bracket ha ha' =>
    rw [elim_of_light Activity.sweeps 0 (fun _ h => h.sweeps) ha'] at hn
    cases hn

/-- A session is not closed before its records were swept. -/
lemma Move.closed (h : Move w s a w' s' none) (hc : a.closes) : 0 < a.sweeps := by
  generalize ho : (none : Option Activity) = o at h
  cases h with
  | start | finish => cases hc
  | abort h =>
    cases h with
    | barred | took | returned => cases ho
    | swept hp => simp [Activity.sweeps, Abort.guards, hp]
  | bracket ha =>
    rw [ha.closes] at hc
    cases hc

/-- What has only just been begun is in charge of nothing. -/
lemma account_of_isFresh (ha : a.isFresh) :
    a.taken = [] ∧ a.keys = 0 ∧ a.guards = 0 ∧ a.sweeps = 0 := by
  cases a with
  | start c executes =>
    have hp := isFresh_start.1 ha
    simp [taken, keys, guards, Activity.sweeps, Start.taken, Start.keys, Start.guards, hp]
  | finish c =>
    have hp : c.phase = .taking := by simpa [isFresh] using ha
    simp [taken, keys, guards, Activity.sweeps, Finish.taken, Finish.keys, hp]
  | abort c closes =>
    have hp : c.phase = .taking := by simpa [isFresh] using ha
    simp [taken, keys, guards, Activity.sweeps, Abort.taken, Abort.guards, hp]
  | utility => exact ⟨rfl, rfl, rfl, rfl⟩
  | entering | inside => cases ha

lemma fitsSession_of_isFresh (w : World MemoryHost) (s : Session) (ha : a.isFresh) :
    a.FitsSession w s := by
  cases a with
  | start c executes =>
    have hp := isFresh_start.1 ha
    refine ⟨⟨?_, ?_⟩, ?_, ?_, ?_⟩
    all_goals simp [Start.keys, Start.Phase.Fits, hp]
  | entering | inside | finish | abort | utility => trivial

/-- A start that goes on fits the roster. -/
lemma Move.fitsRoster (h : Move w s a w' s' a') (hw : w.service.Sound) (ho : a.FitsRoster w)
    (hs : ∀ k ∈ s.nextKey ::ₘ s.keys, k.session = a.session)
    (hn : s.guarded = false → w.service.status? s.nextKey = none) : ∀ b ∈ a', b.FitsRoster w' := by
  intro b hb
  cases h with
  | start h =>
    obtain ⟨c', hc, rfl⟩ | ⟨key, rfl⟩ := mem_ofStart hb
    · exact ⟨h.coherent hw ho.coherent ho.fits hs hc, h.fits hw ho.coherent ho.fits hn hc⟩
    · trivial
  | finish h =>
    obtain ⟨c', hc, rfl⟩ := mem_ofCall hb
    trivial
  | abort h =>
    obtain ⟨c', hc, rfl⟩ := mem_ofCall hb
    trivial
  | bracket ha ha' =>
    have hl := (ha' b hb).1.isStart
    cases b with
    | start => cases hl
    | entering | inside | finish | abort | utility => trivial

/-- Around a start that goes on, no query is active in its session once the start has entered it. -/
lemma Move.vacant (h : Move w s a w' s' a') (hv : a.Vacant s) : ∀ b ∈ a', b.Vacant s' := by
  intro b hb
  cases h with
  | start h =>
    obtain ⟨c', hc, rfl⟩ | ⟨key, rfl⟩ := mem_ofStart hb
    · exact h.vacant hc hv
    · trivial
  | finish h =>
    obtain ⟨c', hc, rfl⟩ := mem_ofCall hb
    trivial
  | abort h =>
    obtain ⟨c', hc, rfl⟩ := mem_ofCall hb
    trivial
  | bracket ha ha' => exact vacant_of_isStart (ha' b hb).1.isStart _

/-- A start that goes on fits its session, if it fits the roster. -/
lemma Move.fitsSession (h : Move w s a w' s' a') (ho : a.FitsSession w s)
    (ha : ∀ b ∈ a', b.FitsRoster w') : ∀ b ∈ a', b.FitsSession w' s' := by
  intro b hb
  have hfits := ha b hb
  cases h with
  | start h =>
    obtain ⟨c', hc, rfl⟩ | ⟨key, rfl⟩ := mem_ofStart hb
    · refine ⟨hfits.coherent, hfits.fits, h.vacant hc ho.vacant, ?_⟩
      intro key b t left taken hq ht
      rw [h.session_eq hc]
      exact h.lacks ho.coherent hc hq ht
    · trivial
  | finish h =>
    obtain ⟨c', hc, rfl⟩ := mem_ofCall hb
    trivial
  | abort h =>
    obtain ⟨c', hc, rfl⟩ := mem_ofCall hb
    trivial
  | bracket ha ha' =>
    have hl := (ha' b hb).1.isStart
    cases b with
    | start => cases hl
    | entering | inside | finish | abort | utility => trivial

end Activity

end QueryAdmission
