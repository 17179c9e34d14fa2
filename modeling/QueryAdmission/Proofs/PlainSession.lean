import QueryAdmission.Proofs.Coverage
import QueryAdmission.Proofs.Ledger

/-!
# Calls in a plain session

A session may do nothing but execute queries one after the other, and then be closed. It is then in
a plain state before every section of its calls (`Session.plain`, and `InPlainSession` for each kind
of call). Where nobody sends its queries away and the scheduler always has a place for them
(`World.Favours`), every section leads to another one in such a state or to the end of the call, and
the end is never an error. What the sections do to the ledger is told apart by the key of the query
that the call has a record for before and after (`Service.Turnover`).
-/

namespace QueryAdmission

/-- A backend's session in which no utility command is open. -/
def Session.plain (id : SessionId) (nesting sequence : Nat) (active : Option ActiveQuery)
    (guarded : Bool) : Session :=
  ⟨id, .backend, nesting, false, sequence, active, guarded⟩

/-- The scheduler is open and no signal is raised, so that no query is sent away, and queries that
affect as many views as this one are not too large. Such a query needs at least these tables. -/
structure World.Favours (w : World MemoryHost) (q : Query) (tables : List TableId) : Prop where
  isShut : w.service.isShut = false
  quiet : w.signals = .quiet
  affected_le : q.affected.length ≤ w.service.schedule.roster.maxAffected
  needs : tables ⊆ dependencySet w.host.index.dependencies q.affected

/-- What a section of a session's call does to the ledger, by the key of the query for which the
session has a record and by how many of its queries are over, both before and after the section. -/
inductive Service.Turnover (s s' : Service) :
    Option QueryKey → Nat → Option QueryKey → Nat → Prop
  | level {o : Option QueryKey} {n : Nat} (h : s.Level s') : Turnover s s' o n o n
  | arrival {k : QueryKey} {n : Nat} (h : s'.ledger = s.ledger.arrival)
      (hk : s'.status? k ≠ none) : Turnover s s' none n (some k) n
  | departure {k : QueryKey} {n : Nat} (h : s'.ledger = s.ledger.departure) :
      Turnover s s' (some k) n none (n + 1)

/-- Where there was a record there is one, unless the query is over. -/
lemma Service.Turnover.held {s s' : Service} {o o' : Option QueryKey} {n n' : Nat}
    (h : s.Turnover s' o n o' n') (ho : ∀ k ∈ o, s.status? k ≠ none) :
    ∀ k ∈ o', s'.status? k ≠ none := by
  intro k hk
  cases h with
  | level h => exact fun hn => ho k hk ((h.status?_eq_none k).1 hn)
  | arrival _ hs =>
    cases hk
    exact hs
  | departure => cases hk

lemma World.Favours.departure?_eq_none {w : World MemoryHost} {q : Query} {tables : List TableId}
    (h : w.Favours q tables) (c : Wait) : c.departure? w = none := by
  simp [Wait.departure?, h.isShut, h.quiet]

/-! ### Admissions -/

namespace Admission

variable {w w' : World MemoryHost} {a a' : Admission} {q : Query} {tables : List TableId}
  {p : Progress Admission (Except Refusal (List TableId))}

/-- An admission that is not about to fail, and will have these tables when it is over. -/
structure WillTake (tables : List TableId) (a : Admission) : Prop where
  needs : tables ⊆ a.tables
  covers : a.Covers
  phase : (∃ c, a.phase = .waiting c ∧ ∀ why, c.phase ≠ .leaving why) ∨
    ∃ pass, a.phase = .locking pass

lemma willTake_ofKey (key : QueryKey) (signal : Signal) (ts : List TableId) (h : tables ⊆ ts) :
    (ofKey key ts signal).WillTake tables where
  needs := h
  covers pass hp := by cases hp
  phase := .inl ⟨_, rfl, fun _ he => by cases he⟩

/-- An admission of a query that has its record is still to take the tables after a section, or is
over and has them. -/
lemma Move.willTake_or_took (h : Move w a w' p) (hw : w.Favours q tables) (ha : a.WillTake tables)
    (hkey : ∀ c, a.phase = .waiting c → c.key = a.key) (hst : w.service.status? a.key ≠ none)
    (ho : ∀ u, w.host.locks.owner u = some a.key.session → u ∈ a.taken) :
    w.service.Level w'.service ∧
      ((∃ a', p.call? = some a' ∧ a'.WillTake tables) ∨
        ∃ locked, p = .done (.ok locked) ∧ tables ⊆ locked) := by
  have goes (a' : Admission) (hp : p.call? = some a')
      (hph : (∃ c, a'.phase = .waiting c ∧ ∀ why, c.phase ≠ .leaving why) ∨
        ∃ pass, a'.phase = .locking pass) :
      (∃ a', p.call? = some a' ∧ a'.WillTake tables) ∨
        ∃ locked, p = .done (.ok locked) ∧ tables ⊆ locked := by
    refine .inl ⟨a', hp, ?_, h.covers ha.covers ho hp, hph⟩
    rw [(h.same hp).2]
    exact ha.needs
  cases h with
  | @gone c hp _ hn =>
    rw [hkey c hp] at hn
    exact absurd hn hst
  | @granted c service _ _ hl =>
    have hlevel := w.service.level_look c.key
    rw [hl] at hlevel
    exact ⟨hlevel, goes _ rfl (.inr ⟨_, rfl⟩)⟩
  | @queued c service _ _ hl =>
    have hlevel := w.service.level_look c.key
    rw [hl] at hlevel
    exact ⟨hlevel, goes _ rfl (.inl ⟨_, rfl, fun _ he => by cases he⟩)⟩
  | @called c _ _ _ hd =>
    rw [hw.departure?_eq_none] at hd
    cases hd
  | slept => exact ⟨.refl _, goes _ rfl (.inl ⟨_, rfl, fun _ he => by cases he⟩)⟩
  | departed hp hc =>
    rcases ha.phase with ⟨c, hq, hn⟩ | ⟨pass, hq⟩ <;> rw [hp] at hq <;> cases hq
    exact absurd hc (hn _)
  | contact => exact ⟨.refl _, goes _ rfl (.inr ⟨_, rfl⟩)⟩
  | began hp =>
    refine ⟨w.service.level_markRunning a.key, .inr ⟨_, rfl, ?_⟩⟩
    exact List.Subset.trans ha.needs (ha.covers _ hp)
  | lost _ hn => exact absurd hn hst
  | retreated =>
    exact ⟨w.service.level_giveUp a.key, goes _ rfl (.inl ⟨_, rfl, fun _ he => by cases he⟩)⟩
  | returned hp | failed hp =>
    rcases ha.phase with ⟨c, hq, -⟩ | ⟨pass, hq⟩ <;> rw [hp] at hq <;> cases hq

lemma Move.signals_eq (h : Move w a w' p) : w'.signals = w.signals := by
  cases h <;> rfl

end Admission

/-! ### Starts -/

namespace Start

variable {w w' : World MemoryHost} {s s' : Session} {c c' : Start} {q : Query} {n : Nat}
  {tables : List TableId} {o : Option Session}
  {p : Progress Start (Except Refusal (Option QueryKey))}

/-- The key of the query, as long as there is a record that the start leads on. -/
def key? (c : Start) : Option QueryKey :=
  match c.phase with
  | .admitting key _ | .checking key _ | .installing key _ => some key
  | .entering | .finishing _ _ _ | .surveying _ _ | .undoing _ _ => none

/-- A phase of a start in a plain session: of the query that comes after `n` others in its session,
and that needs these tables. In each phase, the state of the session is known; there is no phase for
a start that is about to fail, or that finds another query active. -/
def Phase.InPlainSession (tables : List TableId) (id : SessionId) (n : Nat) (o : Option Session) :
    Phase → Prop
  | .entering => o = some (.plain id 0 n none false)
  | .surveying key _ => key = ⟨id, n + 1⟩ ∧ o = some (.plain id 0 (n + 1) none false)
  | .admitting key a =>
    key = ⟨id, n + 1⟩ ∧ o = some (.plain id 0 (n + 1) none false) ∧ a.WillTake tables
  | .checking key locked =>
    key = ⟨id, n + 1⟩ ∧ o = some (.plain id 0 (n + 1) none false) ∧ tables ⊆ locked
  | .installing key locked =>
    key = ⟨id, n + 1⟩ ∧ o = some (.plain id 0 (n + 1) none true) ∧ tables ⊆ locked
  | .finishing _ _ _ | .undoing _ _ => False

/-- A start of that query in a plain session. -/
structure InPlainSession (q : Query) (tables : List TableId) (n : Nat) (o : Option Session)
    (c : Start) : Prop where
  query_eq : c.query = q
  phase : c.phase.InPlainSession tables c.session n o

lemma InPlainSession.key?_eq (h : c.InPlainSession q tables n o) {k : QueryKey} (hk : k ∈ c.key?) :
    k = ⟨c.session, n + 1⟩ := by
  obtain ⟨-, hph⟩ := h
  rw [key?] at hk
  cases hp : c.phase with
  | entering | finishing | surveying | undoing => simp [hp] at hk
  | admitting key a | checking key locked | installing key locked =>
    rw [hp] at hph hk
    rw [← Option.some.inj hk]
    exact hph.1

lemma InPlainSession.session?_ne_none (h : c.InPlainSession q tables n o) : o ≠ none := by
  obtain ⟨-, hph⟩ := h
  rintro rfl
  cases hp : c.phase with
  | entering =>
    rw [hp] at hph
    cases hph
  | surveying =>
    rw [hp] at hph
    cases hph.2
  | admitting | checking | installing =>
    rw [hp] at hph
    cases hph.2.1
  | finishing | undoing =>
    rw [hp] at hph
    exact hph

lemma inPlainSession_ofQuery (id : SessionId) (q : Query) :
    (ofQuery id q).InPlainSession q tables n (some (.plain id 0 n none false)) :=
  ⟨rfl, rfl⟩

/-- A start in a plain session goes on in one, or installs the query with the tables it needs. -/
lemma Move.goesOn_or_installs (h : Move w s c w' s' p) (hw : w.Favours q tables)
    (hc : c.InPlainSession q tables n (some s))
    (he : ∀ id, (Session.plain id 0 n none false).enforces q)
    (hsur : c.Surveys w.host.index) (hroster : c.FitsRoster w)
    (hst : ∀ k ∈ c.key?, w.service.status? k ≠ none)
    (hroom : c.key? = none → w.service.records.length < w.service.schedule.roster.capacity)
    (ho : c.phase ≠ .entering → ∀ u, w.host.locks.owner u = some c.session → u ∈ c.taken) :
    (∃ c', p.call? = some c' ∧ c'.InPlainSession q tables n (some s') ∧
        ∀ m, w.service.Turnover w'.service c.key? m c'.key? m) ∨
      ∃ locked, p = .done (.ok (some ⟨c.session, n + 1⟩)) ∧ tables ⊆ locked ∧
        s' = .plain c.session 0 (n + 1) (some ⟨⟨c.session, n + 1⟩, locked⟩) false ∧
        w'.service = w.service ∧ c.key? = some ⟨c.session, n + 1⟩ := by
  obtain ⟨hq, hph⟩ := hc
  cases h with
  | barred => exact .inl ⟨c, rfl, ⟨hq, hph⟩, fun _ => .level (.refl _)⟩
  | ignored hp hn =>
    rw [hp] at hph
    cases hph
    rw [hq, he] at hn
    cases hn
  | entered hp =>
    rw [hp] at hph
    cases hph
    have hk : c.key? = none := by simp [key?, hp]
    rw [hk]
    exact .inl ⟨_, rfl, ⟨hq, rfl, rfl⟩, fun _ => .level (.refl _)⟩
  | returned hp | finished hp | unlocked hp | failed hp =>
    rw [hp] at hph
    exact hph.elim
  | asked hp =>
    rw [hp] at hph
    have hk : c.key? = none := by simp [key?, hp]
    rw [hk]
    exact .inl ⟨_, rfl, ⟨hq, hph⟩, fun _ => .level (.refl _)⟩
  | @registered key ts record service hp hr =>
    rw [hp] at hph
    obtain ⟨rfl, hs⟩ := hph
    have hfit := hroster.fits
    rw [hp] at hfit
    have hk : c.key? = none := by simp [key?, hp]
    have hts : ts = dependencySet w.host.index.dependencies q.affected := by
      rw [← hq]
      exact hsur _ [] ts hp
    rw [hk]
    refine .inl ⟨_, rfl, ⟨hq, rfl, hs, Admission.willTake_ofKey _ _ _ ?_⟩, fun _ => .arrival ?_ ?_⟩
    · rw [hts]
      exact hw.needs
    · exact w.service.ledger_register hr hfit
    · have hkept := w.service.register_ok _ hr hfit
      rw [ne_eq, hkept.eq_none]
      exact Option.some_ne_none _
  | refused hp hr =>
    have hk : c.key? = none := by simp [key?, hp]
    rw [← hq] at hw
    exact absurd hr (Service.register_ne_error hw.isShut hw.affected_le (hroom hk))
  | @admission key a p w' hp hm =>
    rw [hp] at hph
    obtain ⟨rfl, hs, ha⟩ := hph
    have hk : c.key? = some ⟨c.session, n + 1⟩ := by simp [key?, hp]
    obtain ⟨hkey, hwait⟩ := hroster.coherent.admission _ a hp
    have hown (u : TableId) (hu : w.host.locks.owner u = some a.key.session) : u ∈ a.taken := by
      rw [hkey] at hu
      have hmem := ho (by simp [hp]) u hu
      rwa [taken, hp] at hmem
    obtain ⟨hlevel, ⟨a', hp', ha'⟩ | ⟨locked, rfl, hlocked⟩⟩ :=
      hm.willTake_or_took hw ha (by rwa [hkey]) (by rw [hkey]; exact hst _ hk) hown
    · have hr : (c.relay ⟨c.session, n + 1⟩ p).call?
          = some (c.inPhase (.admitting ⟨c.session, n + 1⟩ a')) := by
        rcases p with a | a | (r | locked) <;> cases hp' <;> rfl
      rw [hk]
      exact .inl ⟨_, hr, ⟨hq, rfl, hs, ha'⟩, fun _ => .level hlevel⟩
    · rw [hk]
      exact .inl ⟨_, rfl, ⟨hq, rfl, hs, hlocked⟩, fun _ => .level hlevel⟩
  | approved hp =>
    rw [hp] at hph
    obtain ⟨rfl, hs, hlocked⟩ := hph
    cases hs
    have hk : c.key? = some ⟨c.session, n + 1⟩ := by simp [key?, hp]
    rw [hk]
    exact .inl ⟨_, rfl, ⟨hq, rfl, rfl, hlocked⟩, fun _ => .level (.refl _)⟩
  | denied hp hg hr =>
    have hfit := hroster.fits
    rw [hp] at hfit
    exact absurd (hfit.resolve_left (hst _ (by simp [key?, hp]))) hr
  | installed hp =>
    rw [hp] at hph
    obtain ⟨rfl, hs, hlocked⟩ := hph
    cases hs
    exact .inr ⟨_, rfl, hlocked, rfl, rfl, by simp [key?, hp]⟩

lemma Move.quiet (h : Move w s c w' s' p) (hw : w.signals = .quiet) : w'.signals = .quiet := by
  cases h with
  | entered =>
    show w.signals.lower _ = _
    rw [hw]
    rfl
  | admission _ hm => exact hm.signals_eq.trans hw
  | barred | ignored | returned | finished | asked | registered | refused | unlocked | approved
  | denied | installed | failed => exact hw

end Start

/-! ### Ends -/

namespace Finish

variable {w w' : World MemoryHost} {s s' : Session} {c c' : Finish} {n : Nat}
  {o : Option Session} {p : Progress Finish Unit}

/-- A phase of the report that the session's query is over, of which it has started `n`. -/
def Phase.InPlainSession (key : QueryKey) (n : Nat) (o : Option Session) : Phase → Prop
  | .taking => ∃ locked, o = some (.plain key.session 0 n (some ⟨key, locked⟩) false)
  | .releasing _ => o = some (.plain key.session 0 n none false)

/-- A report of that kind, of the session's last query. -/
structure InPlainSession (n : Nat) (o : Option Session) (c : Finish) : Prop where
  key_eq : c.key = ⟨c.session, n⟩
  phase : c.phase.InPlainSession c.key n o

lemma InPlainSession.session?_ne_none (h : c.InPlainSession n o) : o ≠ none := by
  obtain ⟨-, hph⟩ := h
  rintro rfl
  cases hp : c.phase with
  | taking =>
    rw [hp] at hph
    obtain ⟨_, hs⟩ := hph
    cases hs
  | releasing =>
    rw [hp] at hph
    cases hph

/-- A report in a plain session goes on in one, or strikes the query out. -/
lemma Move.goesOn_or_completes (h : Move w s c w' s' p) (hw : w.service.Sound)
    (hc : c.InPlainSession n (some s))
    (hst : w.service.status? c.key ≠ none) :
    (∃ c', p.call? = some c' ∧ c'.InPlainSession n (some s') ∧ c'.key = c.key ∧
        w'.service = w.service) ∨
      p = .done () ∧ s' = .plain c.session 0 n none false ∧
        w'.service.ledger = w.service.ledger.departure := by
  obtain ⟨hk, hph⟩ := hc
  cases h with
  | barred => exact .inl ⟨c, rfl, ⟨hk, hph⟩, rfl, rfl⟩
  | idle hp ha =>
    rw [hp] at hph
    obtain ⟨locked, hs⟩ := hph
    cases hs
    exact absurd rfl (ha locked)
  | took hp =>
    rw [hp] at hph
    obtain ⟨locked, hs⟩ := hph
    cases hs
    exact .inl ⟨_, rfl, ⟨hk, rfl⟩, rfl, rfl⟩
  | returned hp =>
    rw [hp] at hph
    exact .inl ⟨_, rfl, ⟨hk, hph⟩, rfl, rfl⟩
  | completed hp =>
    rw [hp, hk] at hph
    cases hph
    exact .inr ⟨rfl, rfl, Service.ledger_complete hw hst⟩

end Finish

/-! ### Aborts -/

namespace Abort

variable {w w' : World MemoryHost} {s s' : Session} {c c' : Abort} {n : Nat}
  {o : Option Session} {p : Progress Abort Unit}

/-- A phase in closing a session in which no query is active. -/
def Phase.InPlainSession (id : SessionId) (n : Nat) (o : Option Session) : Phase → Prop
  | .taking => o = some (.plain id 0 n none false)
  | .releasing left => left = [] ∧ o = some (.plain id 0 n none true)

/-- An abort by which such a session is closed. -/
structure InPlainSession (n : Nat) (o : Option Session) (c : Abort) : Prop where
  phase : c.phase.InPlainSession c.session n o

lemma InPlainSession.session?_ne_none (h : c.InPlainSession n o) : o ≠ none := by
  obtain ⟨hph⟩ := h
  rintro rfl
  cases hp : c.phase with
  | taking =>
    rw [hp] at hph
    cases hph
  | releasing =>
    rw [hp] at hph
    cases hph.2

/-- An abort in a plain session goes on in one or ends, and there is nothing to sweep. -/
lemma Move.goesOn_or_ends (h : Move w s c w' s' p) (hc : c.InPlainSession n (some s))
    (hst : ∀ k, k.session = c.session → w.service.status? k = none) :
    w'.service = w.service ∧
      ((∃ c', p.call? = some c' ∧ c'.InPlainSession n (some s')) ∨ p = .done ()) := by
  obtain ⟨hph⟩ := hc
  cases h with
  | barred => exact ⟨rfl, .inl ⟨c, rfl, ⟨hph⟩⟩⟩
  | took hp =>
    rw [hp] at hph
    cases hph
    exact ⟨rfl, .inl ⟨_, rfl, ⟨rfl, rfl⟩⟩⟩
  | returned hp =>
    rw [hp] at hph
    cases hph.1
  | swept => exact ⟨w.service.sweep_of_none hst, .inr rfl⟩

end Abort

/-- What goes on in sessions raises no signals. -/
lemma Activity.Move.quiet {w w' : World MemoryHost} {s s' : Session} {a : Activity}
    {a' : Option Activity} (h : a.Move w s w' s' a') (hw : w.signals = .quiet) :
    w'.signals = .quiet := by
  cases h with
  | start h => exact h.quiet hw
  | finish h => cases h <;> exact hw
  | abort h => cases h <;> exact hw
  | bracket => exact hw

end QueryAdmission
