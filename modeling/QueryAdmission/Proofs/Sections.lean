import QueryAdmission.Call.Abort
import QueryAdmission.Call.Finish
import QueryAdmission.Call.Start
import QueryAdmission.Proofs.Passage

/-!
# The sections of the calls on a session

What one section of a start, of an end and of an abort can do, on a host in memory and in a session
that is open. Beside the world, a section also leads from one state of the session to another, and
these are what the session's number stands for in the world (`Move.session?_eq`).
-/

namespace QueryAdmission

namespace World

variable {σ : Type} {w : World σ} {s : Session} {id : SessionId}

lemma id_of_session? (h : w.session? id = some s) : s.id = id := by
  simpa using List.find?_some h

lemma isGuarded_of_session? (h : w.session? id = some s) : w.isGuarded id = s.guarded := by
  simp [isGuarded, h]

lemma session?_update_self (h : w.session? id = some s) {f : Session → Session}
    (hf : ∀ s, (f s).id = s.id) : (w.update id f).session? id = some (f s) := by
  rw [session?_update w id id f hf, h]
  simp

/-- The numbers of the sessions that are open. -/
def ids (w : World σ) : List SessionId := w.sessions.map (·.id)

lemma ids_update (w : World σ) (id : SessionId) {f : Session → Session}
    (hf : ∀ s, (f s).id = s.id) : (w.update id f).ids = w.ids := by
  rw [ids, ids, update, List.map_map]
  apply List.map_congr_left
  intro s _
  show (if s.id = id then f s else s).id = s.id
  split
  · exact hf s
  · rfl

lemma session?_update_ne (w : World σ) {other : SessionId} (ho : other ≠ id)
    {f : Session → Session} (hf : ∀ s, (f s).id = s.id) :
    (w.update id f).session? other = w.session? other := by
  rw [session?_update w id other f hf]
  simp [ho]

lemma session?_forget (w : World σ) (id other : SessionId) :
    (w.forget id).session? other = if other = id then none else w.session? other := by
  rw [session?, forget, List.find?_filter]
  split_ifs with ho
  · subst ho
    rw [List.find?_eq_none]
    simp
  · refine congrArg (w.sessions.find? ·) (funext fun s => ?_)
    by_cases hs : s.id = other <;> simp [hs, ho]

end World

/-! ### Starts -/

namespace Start

variable {w w' : World MemoryHost} {s s' : Session} {c : Start}
  {p : Progress Start (Except Refusal (Option QueryKey))}

/-- A start goes on as its admission does. -/
def relay (c : Start) (key : QueryKey) :
    Progress Admission (Except Refusal (List TableId)) →
      Progress Start (Except Refusal (Option QueryKey))
  | .next a => .next (c.inPhase (.admitting key a))
  | .sleep a => .sleep (c.inPhase (.admitting key a))
  | .done (.ok locked) => .next (c.inPhase (.checking key locked))
  | .done (.error r) => .done (.error r)

/-- The sections of a start. -/
inductive Move (w : World MemoryHost) (s : Session) (c : Start) :
    World MemoryHost → Session → Progress Start (Except Refusal (Option QueryKey)) → Prop
  | barred (hp : c.phase = .entering ∨ ∃ key locked, c.phase = .checking key locked)
      (hg : s.guarded = true) : Move w s c w s (.sleep c)
  | ignored (hp : c.phase = .entering) (he : s.enforces c.query = false) :
      Move w s c w s (.done (.ok none))
  | entered (hp : c.phase = .entering) (hg : s.guarded = false) :
      Move w s c
        { w.update c.session Session.advance with
          signals := w.signals.lower (.session c.session) }
        s.advance (.next (c.inPhase (.afterEntry s.nextKey c.query.affected s.active)))
  | returned {key stale : QueryKey} {t : TableId} {ts : List TableId}
      (hp : c.phase = .finishing key stale (t :: ts)) :
      Move w s c (w.unlock c.session t) s (.next (c.inPhase (.finishing key stale ts)))
  | finished {key stale : QueryKey} (hp : c.phase = .finishing key stale []) :
      Move w s c { w with service := (w.service.complete stale).2 } s
        (.next (c.inPhase (.surveying key (.ofViews c.query.affected))))
  | asked {key : QueryKey} {v : ViewId} {vs : List ViewId} {tables : List TableId}
      (hp : c.phase = .surveying key ⟨v :: vs, tables⟩) :
      Move w s c w s (.next (c.inPhase
        (.surveying key ⟨vs, addTables tables (w.host.index.dependencies v)⟩)))
  | registered {key : QueryKey} {tables : List TableId} {record : Record} {service : Service}
      (hp : c.phase = .surveying key ⟨[], tables⟩)
      (hr : w.service.register key c.query.affected c.query.transaction = (.ok record, service)) :
      Move w s c { w with service } s
        (.next (c.inPhase (.admitting key (.ofKey key tables (.session c.session)))))
  | refused {key : QueryKey} {tables : List TableId} {r : Refusal} {service : Service}
      (hp : c.phase = .surveying key ⟨[], tables⟩)
      (hr : w.service.register key c.query.affected c.query.transaction = (.error r, service)) :
      Move w s c { w with service } s (.done (.error r))
  | admission {key : QueryKey} {a : Admission}
      {p : Progress Admission (Except Refusal (List TableId))} {w' : World MemoryHost}
      (hp : c.phase = .admitting key a) (hm : a.Move w w' p) : Move w s c w' s (c.relay key p)
  | approved {key : QueryKey} {locked : List TableId} (hp : c.phase = .checking key locked)
      (hg : s.guarded = false) (hr : w.service.status? key = some .running) :
      Move w s c (w.update c.session Session.guard) s.guard
        (.next (c.inPhase (.installing key locked)))
  | denied {key : QueryKey} {locked : List TableId} (hp : c.phase = .checking key locked)
      (hg : s.guarded = false) (hr : w.service.status? key ≠ some .running) :
      Move w s c (w.update c.session Session.guard) s.guard
        (.next (c.inPhase (.undoing key locked.reverse)))
  | installed {key : QueryKey} {locked : List TableId} (hp : c.phase = .installing key locked) :
      Move w s c (w.update c.session fun s => (s.install key locked).unguard)
        (s.install key locked).unguard (.done (.ok (some key)))
  | unlocked {key : QueryKey} {t : TableId} {ts : List TableId}
      (hp : c.phase = .undoing key (t :: ts)) :
      Move w s c (w.unlock c.session t) s (.next (c.inPhase (.undoing key ts)))
  | failed {key : QueryKey} (hp : c.phase = .undoing key []) :
      Move w s c (w.update c.session Session.unguard) s.unguard (.done (.error (.aborted key)))

/-- Every section is one of these, also in a session that is not open, unless the start is yet to
enter it. -/
lemma move_advance_of (he : c.phase = .entering → w.session? c.session = some s)
    (hw : w.isGuarded c.session = s.guarded) :
    ∃ s', Move w s c (c.advance w).1 s' (c.advance w).2 := by
  rcases hp : c.phase with _ | ⟨key, stale, _ | ⟨t, ts⟩⟩ | ⟨key, _ | ⟨v, vs⟩, tables⟩ | ⟨key, a⟩ |
    ⟨key, locked⟩ | ⟨key, locked⟩ | ⟨key, _ | ⟨t, ts⟩⟩
  · have hs := he hp
    by_cases hg : s.guarded = true
    · have h : c.advance w = (w, .sleep c) := by simp [advance, hp, hs, hg]
      rw [h]
      exact ⟨s, .barred (.inl hp) hg⟩
    · by_cases he : s.enforces c.query = true
      · have h : c.advance w = ({ w.update c.session Session.advance with
              signals := w.signals.lower (.session c.session) },
            .next (c.inPhase (.afterEntry s.nextKey c.query.affected s.active))) := by
          simp [advance, hp, hs, hg, he]
        rw [h]
        exact ⟨s.advance, .entered hp (Bool.eq_false_of_not_eq_true hg)⟩
      · have h : c.advance w = (w, .done (.ok none)) := by simp [advance, hp, hs, hg, he]
        rw [h]
        exact ⟨s, .ignored hp (Bool.eq_false_of_not_eq_true he)⟩
  · have h : c.advance w = ({ w with service := (w.service.complete stale).2 },
        .next (c.inPhase (.surveying key (.ofViews c.query.affected)))) := by
      simp [advance, hp]
    rw [h]
    exact ⟨s, .finished hp⟩
  · have h : c.advance w
        = (w.unlock c.session t, .next (c.inPhase (.finishing key stale ts))) := by
      simp [advance, hp]
    rw [h]
    exact ⟨s, .returned hp⟩
  · rcases hr : w.service.register key c.query.affected c.query.transaction
      with ⟨r | record, service⟩
    · have h : c.advance w = ({ w with service }, .done (.error r)) := by simp [advance, hp, hr]
      rw [h]
      exact ⟨s, .refused hp hr⟩
    · have h : c.advance w = ({ w with service },
          .next (c.inPhase (.admitting key (.ofKey key tables (.session c.session))))) := by
        simp [advance, hp, hr]
      rw [h]
      exact ⟨s, .registered hp hr⟩
  · have h : c.advance w = (w, .next (c.inPhase
        (.surveying key ⟨vs, addTables tables (w.host.index.dependencies v)⟩))) := by
      simp [advance, hp, Survey.ask, Catalogue.dependencies]
    rw [h]
    exact ⟨s, .asked hp⟩
  · have h : c.advance w = ((a.advance w).1, c.relay key (a.advance w).2) := by
      simp only [advance, hp]
      rcases a.advance w with ⟨w', a' | a' | (r | locked)⟩ <;> rfl
    rw [h]
    exact ⟨s, .admission hp (a.move_advance w)⟩
  · by_cases hg : s.guarded = true
    · have h : c.advance w = (w, .sleep c) := by simp [advance, hp, hw, hg]
      rw [h]
      exact ⟨s, .barred (.inr ⟨key, locked, hp⟩) hg⟩
    · have hg' := Bool.eq_false_of_not_eq_true hg
      by_cases hr : w.service.status? key = some .running
      · have h : c.advance w = (w.update c.session Session.guard,
            .next (c.inPhase (.installing key locked))) := by
          simp [advance, hp, hw, hg', hr]
        rw [h]
        exact ⟨s.guard, .approved hp hg' hr⟩
      · have h : c.advance w = (w.update c.session Session.guard,
            .next (c.inPhase (.undoing key locked.reverse))) := by
          simp [advance, hp, hw, hg', hr]
        rw [h]
        exact ⟨s.guard, .denied hp hg' hr⟩
  · have h : c.advance w = (w.update c.session fun s => (s.install key locked).unguard,
        .done (.ok (some key))) := by
      simp [advance, hp]
    rw [h]
    exact ⟨_, .installed hp⟩
  · have h : c.advance w
        = (w.update c.session Session.unguard, .done (.error (.aborted key))) := by
      simp [advance, hp]
    rw [h]
    exact ⟨_, .failed hp⟩
  · have h : c.advance w = (w.unlock c.session t, .next (c.inPhase (.undoing key ts))) := by
      simp [advance, hp]
    rw [h]
    exact ⟨s, .unlocked hp⟩

lemma move_advance (hs : w.session? c.session = some s) :
    ∃ s', Move w s c (c.advance w).1 s' (c.advance w).2 :=
  move_advance_of (fun _ => hs) (World.isGuarded_of_session? hs)

/-- A start in whatever session does nothing, or its section is one of these. -/
lemma exists_move (w : World MemoryHost) (c : Start) :
    c.advance w = (w, .done (.ok none)) ∨
      ∃ s s', s.id = c.session ∧ Move w s c (c.advance w).1 s' (c.advance w).2 := by
  rcases hs : w.session? c.session with _ | s
  · by_cases hp : c.phase = .entering
    · left
      simp [advance, hp, hs]
    · have hg : w.isGuarded c.session = false := by simp [World.isGuarded, hs]
      obtain ⟨s', hm⟩ := move_advance_of (s := .fresh c.session .backend) (fun h => absurd h hp) hg
      exact .inr ⟨_, s', rfl, hm⟩
  · obtain ⟨s', hm⟩ := move_advance hs
    exact .inr ⟨s, s', World.id_of_session? hs, hm⟩

lemma Move.session_eq (h : Move w s c w' s' p) {c' : Start} (hp : p.call? = some c') :
    c'.session = c.session := by
  cases h with
  | ignored | refused | installed | failed => cases hp
  | barred | entered | returned | finished | asked | registered | approved | denied | unlocked =>
    cases hp
    rfl
  | @admission key a p =>
    rcases p with a' | a' | (r | locked) <;> cases hp <;> rfl

lemma Move.session?_eq (h : Move w s c w' s' p) (hs : w.session? c.session = some s) :
    w'.session? c.session = some s' := by
  cases h with
  | barred | ignored | returned | finished | asked | registered | refused | unlocked => exact hs
  | admission _ hm => cases hm <;> exact hs
  | entered | approved | denied | installed | failed =>
    exact World.session?_update_self hs fun _ => rfl

lemma Move.session?_ne (h : Move w s c w' s' p) {other : SessionId} (ho : other ≠ c.session) :
    w'.session? other = w.session? other := by
  cases h with
  | barred | ignored | returned | finished | asked | registered | refused | unlocked => rfl
  | admission _ hm => cases hm <;> rfl
  | entered | approved | denied | installed | failed =>
    exact World.session?_update_ne w ho fun _ => rfl

lemma Move.ids_eq (h : Move w s c w' s' p) : w'.ids = w.ids := by
  cases h with
  | barred | ignored | returned | finished | asked | registered | refused | unlocked => rfl
  | admission _ hm => cases hm <;> rfl
  | entered | approved | denied | installed | failed =>
    exact World.ids_update w c.session fun _ => rfl

end Start

/-! ### Ends -/

namespace Finish

variable {w w' : World MemoryHost} {s s' : Session} {c : Finish} {p : Progress Finish Unit}

/-- The sections of an end. -/
inductive Move (w : World MemoryHost) (s : Session) (c : Finish) :
    World MemoryHost → Session → Progress Finish Unit → Prop
  | barred (hp : c.phase = .taking) (hg : s.guarded = true) : Move w s c w s (.sleep c)
  | idle (hp : c.phase = .taking) (ha : ∀ locked, s.active ≠ some ⟨c.key, locked⟩) :
      Move w s c w s (.done ())
  | took {locked : List TableId} (hp : c.phase = .taking) (hg : s.guarded = false)
      (ha : s.active = some ⟨c.key, locked⟩) :
      Move w s c (w.update c.session Session.vacate) s.vacate
        (.next { c with phase := .releasing locked.reverse })
  | returned {t : TableId} {ts : List TableId} (hp : c.phase = .releasing (t :: ts)) :
      Move w s c (w.unlock c.session t) s (.next { c with phase := .releasing ts })
  | completed (hp : c.phase = .releasing []) :
      Move w s c { w with service := (w.service.complete c.key).2 } s (.done ())

/-- Every section is one of these, also in a session that is not open, unless the call is yet to
begin. -/
lemma move_advance_of (he : c.phase = .taking → w.session? c.session = some s) :
    ∃ s', Move w s c (c.advance w).1 s' (c.advance w).2 := by
  rcases hp : c.phase with _ | _ | ⟨t, ts⟩
  · have hs := he hp
    by_cases hg : s.guarded = true
    · have h : c.advance w = (w, .sleep c) := by simp [advance, hp, hs, hg]
      rw [h]
      exact ⟨s, .barred hp hg⟩
    · rcases ha : s.active with _ | ⟨key, locked⟩
      · have h : c.advance w = (w, .done ()) := by simp [advance, hp, hs, hg, ha]
        rw [h]
        exact ⟨s, .idle hp (by simp [ha])⟩
      · by_cases hk : key = c.key
        · subst hk
          have h : c.advance w = (w.update c.session Session.vacate,
              .next { c with phase := .releasing locked.reverse }) := by
            simp [advance, hp, hs, hg, ha]
          rw [h]
          exact ⟨_, .took hp (Bool.eq_false_of_not_eq_true hg) ha⟩
        · have h : c.advance w = (w, .done ()) := by simp [advance, hp, hs, hg, ha, hk]
          rw [h]
          exact ⟨s, .idle hp (by simp [ha, hk])⟩
  · have h : c.advance w
        = ({ w with service := (w.service.complete c.key).2 }, .done ()) := by
      simp [advance, hp]
    rw [h]
    exact ⟨s, .completed hp⟩
  · have h : c.advance w
        = (w.unlock c.session t, .next { c with phase := .releasing ts }) := by
      simp [advance, hp]
    rw [h]
    exact ⟨s, .returned hp⟩

lemma move_advance (hs : w.session? c.session = some s) :
    ∃ s', Move w s c (c.advance w).1 s' (c.advance w).2 :=
  move_advance_of fun _ => hs

/-- An end in whatever session does nothing, or its section is one of these. -/
lemma exists_move (w : World MemoryHost) (c : Finish) :
    c.advance w = (w, .done ()) ∨
      ∃ s s', s.id = c.session ∧ Move w s c (c.advance w).1 s' (c.advance w).2 := by
  rcases hs : w.session? c.session with _ | s
  · by_cases hp : c.phase = .taking
    · left
      simp [advance, hp, hs]
    · obtain ⟨s', hm⟩ := move_advance_of (w := w) (s := .fresh c.session .backend)
        fun h => absurd h hp
      exact .inr ⟨_, s', rfl, hm⟩
  · obtain ⟨s', hm⟩ := move_advance hs
    exact .inr ⟨s, s', World.id_of_session? hs, hm⟩

lemma Move.session_eq (h : Move w s c w' s' p) {c' : Finish} (hp : p.call? = some c') :
    c'.session = c.session := by
  cases h <;> cases hp <;> rfl

lemma Move.session?_eq (h : Move w s c w' s' p) (hs : w.session? c.session = some s) :
    w'.session? c.session = some s' := by
  cases h with
  | barred | idle | returned | completed => exact hs
  | took => exact World.session?_update_self hs fun _ => rfl

lemma Move.session?_ne (h : Move w s c w' s' p) {other : SessionId} (ho : other ≠ c.session) :
    w'.session? other = w.session? other := by
  cases h with
  | barred | idle | returned | completed => rfl
  | took => exact World.session?_update_ne w ho fun _ => rfl

lemma Move.ids_eq (h : Move w s c w' s' p) : w'.ids = w.ids := by
  cases h with
  | barred | idle | returned | completed => rfl
  | took => exact World.ids_update w c.session fun _ => rfl

lemma Move.apart (h : Move w s c w' s' p) :
    LockTable.Apart c.session w.host.locks w'.host.locks := by
  cases h with
  | barred | idle | took | completed => rfl
  | returned => exact w.host.locks.apart_unlock _ _

end Finish

/-! ### Aborts -/

namespace Abort

variable {w w' : World MemoryHost} {s s' : Session} {c : Abort} {p : Progress Abort Unit}

/-- The sections of an abort. -/
inductive Move (w : World MemoryHost) (s : Session) (c : Abort) :
    World MemoryHost → Session → Progress Abort Unit → Prop
  | barred (hp : c.phase = .taking) (hg : s.guarded = true) : Move w s c w s (.sleep c)
  | took (hp : c.phase = .taking) (hg : s.guarded = false) :
      Move w s c (w.update c.session fun s => s.vacate.guard) s.vacate.guard
        (.next { c with phase := .releasing s.lockedTables.reverse })
  | returned {t : TableId} {ts : List TableId} (hp : c.phase = .releasing (t :: ts)) :
      Move w s c (w.unlock c.session t) s (.next { c with phase := .releasing ts })
  | swept (hp : c.phase = .releasing []) :
      Move w s c
        ({ w with service := (w.service.sweep c.session).2 }.update c.session Session.unguard)
        s.unguard (.done ())

/-- Every section is one of these, also in a session that is not open, unless the call is yet to
begin. -/
lemma move_advance_of (he : c.phase = .taking → w.session? c.session = some s) :
    ∃ s', Move w s c (c.advance w).1 s' (c.advance w).2 := by
  rcases hp : c.phase with _ | _ | ⟨t, ts⟩
  · have hs := he hp
    by_cases hg : s.guarded = true
    · have h : c.advance w = (w, .sleep c) := by simp [advance, hp, hs, hg]
      rw [h]
      exact ⟨s, .barred hp hg⟩
    · have h : c.advance w = (w.update c.session fun s => s.vacate.guard,
          .next { c with phase := .releasing s.lockedTables.reverse }) := by
        simp [advance, hp, hs, hg]
      rw [h]
      exact ⟨_, .took hp (Bool.eq_false_of_not_eq_true hg)⟩
  · have h : c.advance w = ({ w with service := (w.service.sweep c.session).2 }.update c.session
        Session.unguard, .done ()) := by
      simp [advance, hp]
    rw [h]
    exact ⟨_, .swept hp⟩
  · have h : c.advance w
        = (w.unlock c.session t, .next { c with phase := .releasing ts }) := by
      simp [advance, hp]
    rw [h]
    exact ⟨s, .returned hp⟩

lemma move_advance (hs : w.session? c.session = some s) :
    ∃ s', Move w s c (c.advance w).1 s' (c.advance w).2 :=
  move_advance_of fun _ => hs

/-- An abort in whatever session does nothing, or its section is one of these. -/
lemma exists_move (w : World MemoryHost) (c : Abort) :
    c.advance w = (w, .done ()) ∨
      ∃ s s', s.id = c.session ∧ Move w s c (c.advance w).1 s' (c.advance w).2 := by
  rcases hs : w.session? c.session with _ | s
  · by_cases hp : c.phase = .taking
    · left
      simp [advance, hp, hs]
    · obtain ⟨s', hm⟩ := move_advance_of (w := w) (s := .fresh c.session .backend)
        fun h => absurd h hp
      exact .inr ⟨_, s', rfl, hm⟩
  · obtain ⟨s', hm⟩ := move_advance hs
    exact .inr ⟨s, s', World.id_of_session? hs, hm⟩

lemma Move.session_eq (h : Move w s c w' s' p) {c' : Abort} (hp : p.call? = some c') :
    c'.session = c.session := by
  cases h <;> cases hp <;> rfl

lemma Move.session?_eq (h : Move w s c w' s' p) (hs : w.session? c.session = some s) :
    w'.session? c.session = some s' := by
  cases h with
  | barred | returned => exact hs
  | took => exact World.session?_update_self hs fun _ => rfl
  | swept =>
    have hs : ({ w with service := (w.service.sweep c.session).2 } : World MemoryHost).session?
      c.session = some s := hs
    exact World.session?_update_self hs fun _ => rfl

lemma Move.session?_ne (h : Move w s c w' s' p) {other : SessionId} (ho : other ≠ c.session) :
    w'.session? other = w.session? other := by
  cases h with
  | barred | returned => rfl
  | took | swept => exact World.session?_update_ne _ ho fun _ => rfl

lemma Move.ids_eq (h : Move w s c w' s' p) : w'.ids = w.ids := by
  cases h with
  | barred | returned => rfl
  | took | swept => exact World.ids_update _ c.session fun _ => rfl

lemma Move.apart (h : Move w s c w' s' p) :
    LockTable.Apart c.session w.host.locks w'.host.locks := by
  cases h with
  | barred | took | swept => rfl
  | returned => exact w.host.locks.apart_unlock _ _

end Abort

end QueryAdmission
