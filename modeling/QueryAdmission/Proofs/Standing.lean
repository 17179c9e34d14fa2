import QueryAdmission.Proofs.Charge
import QueryAdmission.Proofs.SlotAccount

/-!
# What becomes of records

How the sections of calls change the roster. A section changes the status of no key but those that
its call answers for, apart from a slot that a pass gives to a query that waits, and apart from a
sweep (`Move.mayAdmit`). The status of a query fits the phase of its start at any time
(`Move.fits`), and a key is not dropped before its record is gone (`Move.dropped`).
-/

namespace QueryAdmission

open Status (MayAdmit)

namespace Service

variable {s : Service} {key other : QueryKey}

lemma Sound.mayAdmit (h : s.Sound) {o : Option Status} (hk : Status.Kept (s.status? key) o) :
    MayAdmit (s.status? key) o := by
  apply hk.mayAdmit
  intro hs
  obtain ⟨r, hr, -, hg⟩ := (Roster.status?_eq_some_iff h.keys_nodup).1 hs
  exact h.settled r hr hg

lemma Sound.mayAdmit_of_not (h : s.Sound) {p : Prop} [Decidable p] (hp : ¬p) {o : Option Status}
    (hk : Status.Kept (if p then none else s.status? other) o) :
    MayAdmit (s.status? other) o := by
  rw [if_neg hp] at hk
  exact h.mayAdmit hk

lemma status?_complete_self (s : Service) (key : QueryKey) :
    (s.complete key).2.status? key = none := by
  have h := s.kept_complete key key
  rw [if_pos rfl] at h
  exact h.eq_none.2 rfl

lemma status?_depart_self (s : Service) (key : QueryKey) (why : Departure) :
    (s.depart key why).status? key = none := by
  have h := s.kept_depart key key why
  rw [if_pos rfl] at h
  exact h.eq_none.2 rfl

lemma status?_sweep_self (s : Service) {key : QueryKey} {session : SessionId}
    (hk : key.session = session) : (s.sweep session).2.status? key = none := by
  have h := s.kept_sweep key session
  rw [if_pos hk] at h
  exact h.eq_none.2 rfl

end Service

/-! ### Admissions -/

namespace Admission

variable {w w' : World MemoryHost} {a a' : Admission}
  {p : Progress Admission (Except Refusal (List TableId))}

/-- The statuses that a query may have in a phase of its admission. -/
def Phase.Fits : Phase → Option Status → Prop
  | .waiting _, o => o ≠ some .running
  | .locking _, o => o = none ∨ o = some .available
  | .undoing _, o => o = none

lemma Phase.Fits.mayAdmit {ph : Phase} {o o' : Option Status} (h : ph.Fits o)
    (hm : MayAdmit o o') : ph.Fits o' := by
  cases ph with
  | waiting c =>
    rcases hm with rfl | ⟨rfl, rfl⟩
    · exact h
    · simp [Fits]
  | locking pass =>
    rcases h with rfl | rfl
    · exact .inl (Status.mayAdmit_none.1 hm)
    · exact .inr (Status.mayAdmit_available.1 hm)
  | undoing left =>
    obtain rfl : o = none := h
    exact Status.mayAdmit_none.1 hm

lemma Phase.fits_none (ph : Phase) : ph.Fits none := by
  cases ph <;> simp [Fits]

lemma Move.alike (h : Move w a w' p) : w.service.Alike w'.service := by
  cases h with
  | gone | called | slept | contact | lost | returned | failed => rfl
  | @granted c _ _ _ hl | @queued c _ _ _ hl =>
    have h := w.service.alike_look c.key
    rwa [hl] at h
  | departed => exact w.service.alike_depart _ _
  | began => exact w.service.alike_markRunning a.key
  | retreated => exact w.service.alike_giveUp a.key

lemma Move.mayAdmit (h : Move w a w' p) (hw : w.service.Sound)
    (hc : ∀ wait, a.phase = .waiting wait → wait.key = a.key) {k : QueryKey} (hk : k ≠ a.key) :
    MayAdmit (w.service.status? k) (w'.service.status? k) := by
  cases h with
  | gone | called | slept | contact | lost | returned | failed => rfl
  | @granted c _ _ _ hl | @queued c _ _ _ hl =>
    have h := w.service.kept_look c.key k
    rw [hl] at h
    exact hw.mayAdmit h
  | @departed c why hp =>
    rw [← hc c hp] at hk
    exact hw.mayAdmit_of_not hk (w.service.kept_depart c.key k why)
  | began =>
    left
    exact (w.service.status?_markRunning a.key k).trans (if_neg hk)
  | retreated => exact hw.mayAdmit (w.service.kept_giveUp a.key k hk)

lemma Move.sound (h : Move w a w' p) (hw : w.service.Sound)
    (hf : a.phase.Fits (w.service.status? a.key)) : w'.service.Sound := by
  cases h with
  | gone | called | slept | contact | lost | returned | failed => exact hw
  | @granted c _ _ _ hl | @queued c _ _ _ hl =>
    have h := hw.look c.key
    rw [hl] at h
    exact h
  | departed => exact hw.depart _ _
  | began hp =>
    apply hw.markRunning
    intro status hst
    rw [hp, hst] at hf
    rcases hf with hf | hf
    · cases hf
    · cases hf
      rfl
  | retreated => exact hw.giveUp _

/-- An admission that goes on still waits for its own query, whose status fits. -/
lemma Move.fits (h : Move w a w' p) (hw : w.service.Sound)
    (hc : ∀ wait, a.phase = .waiting wait → wait.key = a.key)
    (hf : a.phase.Fits (w.service.status? a.key)) (hp : p.call? = some a') :
    (∀ wait, a'.phase = .waiting wait → wait.key = a.key) ∧
      a'.phase.Fits (w'.service.status? a.key) := by
  cases h with
  | gone | departed | began | failed => cases hp
  | @granted c service hq _ hl =>
    cases hp
    refine ⟨by rintro wait ⟨⟩, ?_⟩
    have hk := hw.mayAdmit (w.service.kept_look c.key a.key)
    obtain ⟨status, hst, hh⟩ := w.service.look_found c.key hl (by simp)
    rw [hl] at hk
    rw [hq] at hf
    rw [hc c hq] at hst
    have hr : service.status? a.key ≠ some .running := Phase.Fits.mayAdmit hf hk
    right
    show service.status? a.key = some .available
    rw [hst] at hr ⊢
    have hs : status.holdsSlot := hh.1 rfl
    cases status with
    | available => rfl
    | running => exact absurd rfl hr
    | waiting | gaveUp => cases hs
  | @queued c service hq _ hl =>
    cases hp
    have hk := hw.mayAdmit (w.service.kept_look c.key a.key)
    rw [hl] at hk
    rw [hq] at hf
    refine ⟨?_, Phase.Fits.mayAdmit hf hk⟩
    rintro wait ⟨⟩
    exact hc c hq
  | @called c why hq | @slept c hq =>
    cases hp
    rw [hq] at hf
    refine ⟨?_, hf⟩
    rintro wait ⟨⟩
    exact hc c hq
  | contact hq =>
    cases hp
    rw [hq] at hf
    exact ⟨by rintro wait ⟨⟩, hf⟩
  | lost _ hn =>
    cases hp
    exact ⟨by rintro wait ⟨⟩, hn⟩
  | retreated =>
    cases hp
    refine ⟨by rintro wait ⟨⟩; rfl, ?_⟩
    show (w.service.giveUp a.key).status? a.key ≠ some .running
    rw [Service.status?_giveUp]
    cases w.service.status? a.key <;> simp
  | returned hq =>
    cases hp
    rw [hq] at hf
    exact ⟨by rintro wait ⟨⟩, hf⟩

/-- An admission that fails leaves no record of its query, and one that succeeds leaves one that
runs. -/
lemma Move.ended (h : Move w a w' p) (hc : ∀ wait, a.phase = .waiting wait → wait.key = a.key)
    (hf : a.phase.Fits (w.service.status? a.key)) :
    (∀ r, p = .done (.error r) → w'.service.status? a.key = none) ∧
      ∀ tables, p = .done (.ok tables) → w'.service.status? a.key = some .running := by
  cases h with
  | granted | queued | called | slept | contact | lost | retreated | returned => simp
  | @gone c hp _ hn =>
    rw [hc c hp] at hn
    simp [hn]
  | @departed c why hp =>
    have hn := w.service.status?_depart_self c.key why
    rw [hc c hp] at hn
    simp [← hc c hp] at hn ⊢
    exact hn
  | began hp hs =>
    obtain ⟨status, hst⟩ := Option.ne_none_iff_exists'.1 hs
    simp [Service.status?_markRunning, hst]
  | failed hp =>
    rw [hp] at hf
    have hn : w.service.status? a.key = none := hf
    simp [hn]

end Admission

/-! ### Starts -/

namespace Start

variable {w w' : World MemoryHost} {s s' : Session} {c c' : Start}
  {p : Progress Start (Except Refusal (Option QueryKey))}

/-- The statuses that queries may have in a phase of a start. -/
def Phase.Fits : Phase → (QueryKey → Option Status) → Prop
  | .entering, _ => True
  | .finishing key _ _, st | .surveying key _, st | .undoing key _, st => st key = none
  | .admitting key a, st => a.phase.Fits (st key)
  | .checking key _, st => st key = none ∨ st key = some .running
  | .installing key _, st => st key = some .running

/-- A start is content with what may become of the statuses that it answers for. -/
lemma fits_mayAdmit {st st' : QueryKey → Option Status} (h : c.phase.Fits st)
    (hm : ∀ k ∈ c.keys, MayAdmit (st k) (st' k)) : c.phase.Fits st' := by
  rw [keys] at hm
  cases hp : c.phase with
  | entering => trivial
  | finishing key stale left | surveying key survey | undoing key left =>
    rw [hp] at h
    have hk := hm key (by simp [hp])
    rw [show st key = none from h] at hk
    exact Status.mayAdmit_none.1 hk
  | admitting key a =>
    rw [hp] at h
    exact Admission.Phase.Fits.mayAdmit h (hm key (by simp [hp]))
  | checking key locked =>
    rw [hp] at h
    have hk := hm key (by simp [hp])
    rcases h with h | h
    · rw [h] at hk
      exact .inl (Status.mayAdmit_none.1 hk)
    · rw [h] at hk
      exact .inr (Status.mayAdmit_running.1 hk)
  | installing key locked =>
    rw [hp] at h
    have hk := hm key (by simp [hp])
    rw [show st key = some .running from h] at hk
    exact Status.mayAdmit_running.1 hk

/-- The records of its keys may be swept away, unless the start has its session guarded. -/
lemma fits_none (hg : c.guards = 0) {st : QueryKey → Option Status}
    (hn : ∀ k ∈ c.keys, st k = none) : c.phase.Fits st := by
  rw [keys] at hn
  rw [guards] at hg
  cases hp : c.phase with
  | entering => trivial
  | finishing key stale left | surveying key survey => exact hn key (by simp [hp])
  | undoing key left | installing key locked => simp [hp] at hg
  | admitting key a =>
    show a.phase.Fits (st key)
    rw [hn key (by simp [hp])]
    exact a.phase.fits_none
  | checking key locked => exact .inl (hn key (by simp [hp]))

lemma Move.alike (h : Move w s c w' s' p) : w.service.Alike w'.service := by
  cases h with
  | barred | ignored | entered | returned | asked | approved | denied | installed | unlocked
  | failed => rfl
  | finished => exact w.service.alike_complete _
  | @registered key _ _ _ _ hr | @refused key _ _ _ _ hr =>
    have h := w.service.alike_register key c.query.affected c.query.transaction
    rwa [hr] at h
  | admission _ hm => exact hm.alike

lemma Move.mayAdmit (h : Move w s c w' s' p) (hw : w.service.Sound) (hc : c.Coherent)
    {k : QueryKey} (hk : k ∉ c.keys) :
    MayAdmit (w.service.status? k) (w'.service.status? k) := by
  cases h with
  | barred | ignored | entered | returned | asked | approved | denied | installed | unlocked
  | failed => rfl
  | @finished key stale hp =>
    have hne : k ≠ stale := by
      rintro rfl
      simp [keys, hp] at hk
    exact hw.mayAdmit_of_not hne (w.service.kept_complete stale k)
  | @registered key tables record service hp hr =>
    have hne : k ≠ key := by
      rintro rfl
      simp [keys, hp] at hk
    have h := w.service.kept_register key k c.query.affected c.query.transaction hne
    rw [hr] at h
    exact hw.mayAdmit h
  | refused _ hr =>
    left
    exact w.service.register_error _ k hr
  | @admission key a p w' hp hm =>
    obtain ⟨ha, hwait⟩ := hc.admission key a hp
    refine hm.mayAdmit hw (by rwa [ha]) ?_
    rintro rfl
    simp [keys, hp, ha] at hk

lemma Move.sound (h : Move w s c w' s' p) (hw : w.service.Sound) (hc : c.Coherent)
    (hf : c.phase.Fits w.service.status?) : w'.service.Sound := by
  cases h with
  | barred | ignored | entered | returned | asked | approved | denied | installed | unlocked
  | failed => exact hw
  | finished => exact hw.complete _
  | @registered key _ _ _ _ hr | @refused key _ _ _ _ hr =>
    have h := hw.register key c.query.affected c.query.transaction
    rw [hr] at h
    exact h
  | admission hp hm =>
    rw [hp] at hf
    refine hm.sound hw ?_
    rw [(hc.admission _ _ hp).1]
    exact hf

/-- A key is not dropped before its record is gone. -/
lemma Move.dropped (h : Move w s c w' s' p) (hc : c.Coherent)
    (hf : c.phase.Fits w.service.status?) {k : QueryKey} (hk : k ∈ c.keys)
    (hd : k ∉ s'.keys + p.call?.elim 0 keys) : w'.service.status? k = none := by
  rw [Multiset.mem_add, not_or] at hd
  obtain ⟨hds, hdp⟩ := hd
  cases h with
  | barred => exact absurd hk hdp
  | ignored hp | entered hp => simp [keys, hp] at hk
  | returned hp | asked hp | registered hp | approved hp | denied hp | unlocked hp =>
    simp [keys, hp] at hk
    simp [Progress.call?, keys, inPhase, hk] at hdp
  | @finished key stale hp =>
    simp [keys, hp] at hk
    simp [Progress.call?, keys, inPhase] at hdp
    obtain rfl : k = stale := hk.resolve_left hdp
    exact w.service.status?_complete_self k
  | @refused key tables r service hp hr =>
    simp [keys, hp] at hk
    subst hk
    rw [hp] at hf
    have hn : w.service.status? k = none := hf
    rw [← hn]
    exact w.service.register_error k k hr
  | @admission key a p w' hp hm =>
    obtain ⟨ha, hwait⟩ := hc.admission key a hp
    rw [hp] at hf
    simp [keys, hp] at hk
    subst hk
    rcases p with a' | a' | (r | locked)
    · simp [relay, Progress.call?, keys, inPhase] at hdp
    · simp [relay, Progress.call?, keys, inPhase] at hdp
    · have he := hm.ended (by rwa [ha]) (by rwa [ha])
      rw [ha] at he
      exact he.1 r rfl
    · simp [relay, Progress.call?, keys, inPhase] at hdp
  | @installed key locked hp =>
    simp [keys, hp] at hk
    simp [hk] at hds
  | @failed key hp =>
    simp [keys, hp] at hk
    subst hk
    rw [hp] at hf
    exact hf

/-- A query that comes to be active runs. -/
lemma Move.mem_keys (h : Move w s c w' s' p) (hf : c.phase.Fits w.service.status?) {k : QueryKey}
    (hk : k ∈ s'.keys) : k ∈ s.keys ∨ w'.service.status? k = some .running := by
  cases h with
  | barred | ignored | returned | finished | asked | registered | refused | unlocked | admission
  | approved | denied | failed => exact .inl hk
  | entered => cases hk
  | installed hp =>
    rw [hp] at hf
    rw [Session.keys_unguard, Session.keys_install, Multiset.mem_singleton] at hk
    rw [hk]
    exact .inr hf

/-- A start that goes on answers for keys of its session, as before. -/
lemma Move.keys_session (h : Move w s c w' s' p) (hc : c.Coherent)
    (hs : ∀ k ∈ s.nextKey ::ₘ s.keys, k.session = c.session) :
    ∀ k ∈ p.call?.elim 0 keys, k.session = c.session := by
  intro k hk
  have hk : k ∈ s'.keys + p.call?.elim 0 keys := Multiset.mem_add.2 (.inr hk)
  have own {k : QueryKey} (hk : k ∈ s.keys + c.keys) : k.session = c.session := by
    rcases Multiset.mem_add.1 hk with hk | hk
    · exact hs k (Multiset.mem_cons_of_mem hk)
    · exact hc.session_eq k hk
  rcases h.keys_le with ⟨hle, -⟩ | ⟨heq, -⟩
  · exact own (Multiset.mem_of_le hle hk)
  · rw [heq] at hk
    rcases Multiset.mem_cons.1 hk with rfl | hk
    · exact hs _ (Multiset.mem_cons_self _ _)
    · exact own hk

/-- A start that goes on has an admission for its own query, if any. -/
lemma Move.coherent (h : Move w s c w' s' p) (hw : w.service.Sound) (hc : c.Coherent)
    (hf : c.phase.Fits w.service.status?)
    (hs : ∀ k ∈ s.nextKey ::ₘ s.keys, k.session = c.session) (hp : p.call? = some c') :
    c'.Coherent := by
  have hkeys := h.keys_session hc hs
  rw [hp, Option.elim_some] at hkeys
  refine ⟨by rwa [h.session_eq hp], ?_⟩
  intro key' a' hq
  cases h with
  | ignored | refused | installed | failed => cases hp
  | barred =>
    cases hp
    exact hc.admission key' a' hq
  | entered =>
    cases hp
    rcases hs : s.active with _ | q <;> rw [hs] at hq <;> cases hq
  | returned | finished | asked | approved | denied | unlocked =>
    cases hp
    cases hq
  | registered =>
    cases hp
    cases hq
    refine ⟨rfl, ?_⟩
    rintro wait ⟨⟩
    rfl
  | @admission key a p w' hp' hm =>
    obtain ⟨ha, hwait⟩ := hc.admission key a hp'
    rw [hp'] at hf
    rcases p with b | b | (r | locked)
    · cases hp
      cases hq
      have hb := hm.fits hw (by rwa [ha]) (by rwa [ha]) rfl
      rw [ha] at hb
      exact ⟨(hm.same rfl).1.trans ha, hb.1⟩
    · cases hp
      cases hq
      have hb := hm.fits hw (by rwa [ha]) (by rwa [ha]) rfl
      rw [ha] at hb
      exact ⟨(hm.same rfl).1.trans ha, hb.1⟩
    · cases hp
    · cases hp
      cases hq

/-- A start that goes on has a query with a status that fits. -/
lemma Move.fits (h : Move w s c w' s' p) (hw : w.service.Sound) (hc : c.Coherent)
    (hf : c.phase.Fits w.service.status?)
    (hn : s.guarded = false → w.service.status? s.nextKey = none)
    (hp : p.call? = some c') : c'.phase.Fits w'.service.status? := by
  cases h with
  | ignored | refused | installed | failed => cases hp
  | barred =>
    cases hp
    exact hf
  | entered _ hg =>
    cases hp
    rcases hs : s.active with _ | q <;> exact hn hg
  | returned hq | asked hq | unlocked hq =>
    cases hp
    rw [hq] at hf
    exact hf
  | @finished key stale hq =>
    cases hp
    rw [hq] at hf
    have hk := w.service.kept_complete stale key
    rw [show w.service.status? key = none from hf, ite_self] at hk
    exact hk.eq_none.2 rfl
  | @registered key tables record service hq hr =>
    cases hp
    rw [hq] at hf
    have hk := w.service.register_ok key hr hf
    have hm := hk.mayAdmit (by simp)
    have ha : (Admission.Phase.waiting (.ofKey key (.session c.session))).Fits
        (some .waiting) := by simp [Admission.Phase.Fits]
    exact ha.mayAdmit hm
  | approved _ _ hr =>
    cases hp
    exact hr
  | denied hq _ hr =>
    cases hp
    rw [hq] at hf
    exact hf.resolve_right hr
  | @admission key a p w' hq hm =>
    obtain ⟨ha, hwait⟩ := hc.admission key a hq
    rw [hq] at hf
    rcases p with b | b | (r | locked)
    · cases hp
      have hb := hm.fits hw (by rwa [ha]) (by rwa [ha]) rfl
      rw [ha] at hb
      exact hb.2
    · cases hp
      have hb := hm.fits hw (by rwa [ha]) (by rwa [ha]) rfl
      rw [ha] at hb
      exact hb.2
    · cases hp
    · cases hp
      have he := hm.ended (by rwa [ha]) (by rwa [ha])
      rw [ha] at he
      exact .inr (he.2 locked rfl)

end Start

/-! ### Ends and aborts -/

namespace Finish

variable {w w' : World MemoryHost} {s s' : Session} {c : Finish} {p : Progress Finish Unit}
  {k : QueryKey}

lemma Move.alike (h : Move w s c w' s' p) : w.service.Alike w'.service := by
  cases h with
  | barred | idle | took | returned => rfl
  | completed => exact w.service.alike_complete c.key

lemma Move.mayAdmit (h : Move w s c w' s' p) (hw : w.service.Sound) (hk : k ∉ c.keys) :
    MayAdmit (w.service.status? k) (w'.service.status? k) := by
  cases h with
  | barred | idle | took | returned => rfl
  | completed hp =>
    have hne : k ≠ c.key := by simpa [keys, hp] using hk
    exact hw.mayAdmit_of_not hne (w.service.kept_complete c.key k)

lemma Move.sound (h : Move w s c w' s' p) (hw : w.service.Sound) : w'.service.Sound := by
  cases h with
  | barred | idle | took | returned => exact hw
  | completed => exact hw.complete c.key

lemma Move.dropped (h : Move w s c w' s' p) (hk : k ∈ c.keys)
    (hd : k ∉ s'.keys + p.call?.elim 0 keys) : w'.service.status? k = none := by
  cases h with
  | barred => exact absurd (Multiset.mem_add.2 (.inr hk)) hd
  | idle hp | took hp => simp [keys, hp] at hk
  | returned hp =>
    simp [keys, hp] at hk
    simp [Progress.call?, keys, hk] at hd
  | completed hp =>
    simp [keys, hp] at hk
    rw [hk]
    exact w.service.status?_complete_self c.key

end Finish

namespace Abort

variable {w w' : World MemoryHost} {s s' : Session} {c : Abort} {p : Progress Abort Unit}
  {k : QueryKey}

lemma Move.alike (h : Move w s c w' s' p) : w.service.Alike w'.service := by
  cases h with
  | barred | took | returned => rfl
  | swept => exact w.service.alike_sweep c.session

lemma Move.mayAdmit (h : Move w s c w' s' p) (hw : w.service.Sound)
    (hk : k.session ≠ c.session ∨ c.guards = 0 ∨ 0 < p.call?.elim 0 guards) :
    MayAdmit (w.service.status? k) (w'.service.status? k) := by
  cases h with
  | barred | took | returned => rfl
  | swept hp =>
    simp [guards, hp, Progress.call?] at hk
    exact hw.mayAdmit_of_not hk (w.service.kept_sweep k c.session)

lemma Move.sound (h : Move w s c w' s' p) (hw : w.service.Sound) : w'.service.Sound := by
  cases h with
  | barred | took | returned => exact hw
  | swept => exact hw.sweep c.session

/-- When an abort lets go of the session, none of the session's records is left. -/
lemma Move.dropped (h : Move w s c w' s' p) (hg : c.guards = 1) (hp : p.call?.elim 0 guards = 0)
    (hk : k.session = c.session) : w'.service.status? k = none := by
  cases h with
  | barred => simp [Progress.call?, hg] at hp
  | took hq => simp [guards, hq] at hg
  | returned => simp [Progress.call?, guards] at hp
  | swept => exact w.service.status?_sweep_self hk

end Abort

/-! ### Keys without a record -/

variable {k : QueryKey}

namespace Service

variable {s : Service}

lemma status?_pass_eq_none (h : s.status? k = none) : s.pass.2.status? k = none :=
  (s.kept_pass k).eq_none.2 h

lemma status?_complete_eq_none (key : QueryKey) (h : s.status? k = none) :
    (s.complete key).2.status? k = none :=
  (s.kept_complete key k).eq_none.2 (by simp [h])

lemma status?_depart_eq_none (key : QueryKey) (why : Departure) (h : s.status? k = none) :
    (s.depart key why).status? k = none :=
  (s.kept_depart key k why).eq_none.2 (by simp [h])

lemma status?_look_eq_none (key : QueryKey) (h : s.status? k = none) :
    (s.look key).2.status? k = none :=
  (s.kept_look key k).eq_none.2 h

lemma status?_register_eq_none {key : QueryKey} (affected : List ViewId)
    (transaction : TransactionId) (hk : k ≠ key) (h : s.status? k = none) :
    (s.register key affected transaction).2.status? k = none :=
  (s.kept_register key k affected transaction hk).eq_none.2 h

lemma status?_giveUp_eq_none (key : QueryKey) (h : s.status? k = none) :
    (s.giveUp key).status? k = none := by
  by_cases hk : k = key
  · subst hk
    rw [status?_giveUp, h]
    rfl
  · exact (s.kept_giveUp key k hk).eq_none.2 h

lemma status?_markRunning_eq_none (key : QueryKey) (h : s.status? k = none) :
    (s.markRunning key).2.status? k = none := by
  rw [status?_markRunning, h]
  split_ifs <;> rfl

lemma status?_sweep_eq_none (session : SessionId) (h : s.status? k = none) :
    (s.sweep session).2.status? k = none :=
  (s.kept_sweep k session).eq_none.2 (by simp [h])

end Service

section Absent

variable {w w' : World MemoryHost} {s s' : Session} (hn : w.service.status? k = none)

include hn

lemma Admission.Move.status?_eq_none {a : Admission}
    {p : Progress Admission (Except Refusal (List TableId))} (h : a.Move w w' p) :
    w'.service.status? k = none := by
  cases h with
  | gone | called | slept | contact | lost | returned | failed => exact hn
  | @granted c _ _ _ hl | @queued c _ _ _ hl =>
    have h := Service.status?_look_eq_none c.key hn
    rwa [hl] at h
  | departed => exact Service.status?_depart_eq_none _ _ hn
  | began => exact Service.status?_markRunning_eq_none a.key hn
  | retreated => exact Service.status?_giveUp_eq_none a.key hn

/-- A start registers no key but that of its query. -/
lemma Start.Move.status?_eq_none {c : Start} {p : Progress Start (Except Refusal (Option QueryKey))}
    (h : c.Move w s w' s' p) (hc : c.queryKey? ≠ some k) : w'.service.status? k = none := by
  cases h with
  | barred | ignored | entered | returned | asked | approved | denied | installed | unlocked
  | failed => exact hn
  | @finished key stale => exact Service.status?_complete_eq_none stale hn
  | @registered key _ _ _ hp hr | @refused key _ _ _ hp hr =>
    have hne : k ≠ key := by
      rintro rfl
      simp [queryKey?, hp] at hc
    have h := Service.status?_register_eq_none c.query.affected c.query.transaction hne hn
    rwa [hr] at h
  | admission _ hm => exact hm.status?_eq_none hn

lemma Finish.Move.status?_eq_none {c : Finish} {p : Progress Finish Unit} (h : c.Move w s w' s' p) :
    w'.service.status? k = none := by
  cases h with
  | barred | idle | took | returned => exact hn
  | completed => exact Service.status?_complete_eq_none c.key hn

lemma Abort.Move.status?_eq_none {c : Abort} {p : Progress Abort Unit} (h : c.Move w s w' s' p) :
    w'.service.status? k = none := by
  cases h with
  | barred | took | returned => exact hn
  | swept => exact Service.status?_sweep_eq_none c.session hn

end Absent

end QueryAdmission
