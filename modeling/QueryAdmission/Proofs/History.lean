import QueryAdmission.Proofs.Accounted
import QueryAdmission.Proofs.Overlap

/-!
# Histories with transactions of their own

Around its queries, the transaction of a session takes tables and frees them by itself, which the
scheduler does not notice (`Traffic.Direct`). In a history (`Traffic.History`) this happens between
all else that may happen in traffic. It concerns nothing but who owns the tables of that session:
traffic stays proper (`History.proper`), and the records of a session are accounted for as long as
no two of its starts go on at the same time (`History.accounted`).
-/

namespace QueryAdmission

namespace Traffic

variable {t t₀ t' : Traffic} {e : Event} {id : SessionId} {kind : Activity → Bool}

/-- The same traffic with other owners of the tables. -/
def setLocks (t : Traffic) (locks : LockTable) : Traffic :=
  ⟨{ t.world with host := { t.world.host with locks } }, t.underway⟩

/-- A session takes a table, if it can, or frees one, by itself. -/
inductive Direct (id : SessionId) (t : Traffic) : Traffic → Prop
  | lock (u : TableId) : Direct id t (t.setLocks (t.world.host.locks.attempt id u).2)
  | unlock (u : TableId) : Direct id t (t.setLocks (t.world.host.locks.unlock id u))

/-- It concerns the tables of that session alone. -/
lemma Direct.eq_setLocks (h : Direct id t t') :
    ∃ locks, t' = t.setLocks locks ∧ LockTable.Apart id t.world.host.locks locks := by
  cases h with
  | lock u => exact ⟨_, rfl, LockTable.apart_attempt _ id u⟩
  | unlock u => exact ⟨_, rfl, LockTable.apart_unlock _ id u⟩

lemma Proper.setLocks (h : t.Proper) (locks : LockTable) : (t.setLocks locks).Proper :=
  h.congr rfl rfl rfl rfl

/-- All that happened since the beginning, while sessions also took and freed tables by themselves.
-/
inductive History (kind : Activity → Bool) (t₀ : Traffic) : Traffic → Prop
  | nil : History kind t₀ t₀
  | step {t t' : Traffic} {e : Event} (h : History kind t₀ t) (hs : Step t e t')
      (hd : t'.OneByOne kind) : History kind t₀ t'
  | direct {t t' : Traffic} {id : SessionId} (h : History kind t₀ t) (hd : Direct id t t') :
      History kind t₀ t'

lemma Run.history {events : List Event} (h : Run kind t₀ events t) : History kind t₀ t := by
  induction h with
  | nil => exact .nil
  | snoc _ hs hd ih => exact ih.step hs hd

lemma History.proper (h : History kind t₀ t) (hp : t₀.Proper) : t.Proper := by
  induction h with
  | nil => exact hp
  | step _ hs _ ih => exact ih.step hs
  | direct _ hd ih =>
    obtain ⟨locks, rfl, -⟩ := hd.eq_setLocks
    exact ih.setLocks locks

lemma History.oneByOne (h : History kind t₀ t) (h₀ : t₀.underway = 0) : t.OneByOne kind := by
  induction h with
  | nil =>
    rw [OneByOne, h₀]
    exact Multiset.nodup_zero
  | step _ _ hd _ => exact hd
  | direct _ hd ih =>
    obtain ⟨locks, rfl, -⟩ := hd.eq_setLocks
    exact ih

/-! ### Records that are accounted for -/

/-- Starts in the session. -/
def startsIn (id : SessionId) (a : Activity) : Bool := a.isStart && a.session = id

/-- If the session is open, none of its records is forgotten. -/
def AccountedIn (id : SessionId) (t : Traffic) : Prop :=
  ∀ s, t.world.session? id = some s → Accounted t.world s (t.within id)

/-- What changes neither sessions nor statuses leaves all records accounted for. -/
lemma AccountedIn.congr (h : t.AccountedIn id) {w : World MemoryHost}
    (hs : w.sessions = t.world.sessions)
    (hst : ∀ k, w.service.status? k = t.world.service.status? k) :
    AccountedIn id ⟨w, t.underway⟩ := by
  intro s hid
  have hid : w.sessions.find? _ = some s := hid
  rw [hs] at hid
  exact (h s hid).elsewhere fun k _ => .inl (hst k)

section Move

variable {a : Activity} {a' : Option Activity} {rest : Multiset Activity} {s s' : Session}
  {w : World MemoryHost}

lemma AccountedIn.move (h : t.AccountedIn id) (hp : t.Proper) (hd : t.OneByOne (startsIn id))
    (ha : t.underway = a ::ₘ rest) (hs : t.world.session? a.session = some s)
    (hm : a.Move t.world s w s' a') : AccountedIn id ⟨w, Activity.after a' rest⟩ := by
  intro s₁ hs₁
  have hs₁ : w.session? id = some s₁ := hs₁
  show Accounted w s₁ (Activity.ofSession id (Activity.after a' rest))
  by_cases hne : id = a.session
  · subst hne
    rw [hm.session?_eq hs] at hs₁
    cases hs₁
    have hacc := h s hs
    rw [within, ha, Activity.ofSession_cons rfl] at hacc
    rw [Activity.ofSession_after fun b hb => (hm.same hb).1]
    apply hacc.advance hp.sound hm
    intro b hb hst
    obtain ⟨hb, hbs⟩ := Activity.mem_ofSession.1 hb
    have hnb := hd.not_both ha hb hbs (by simp [startsIn, hst])
    simpa [startsIn, hbs] using hnb
  · rw [hm.session?_ne hne] at hs₁
    obtain ⟨hu, -, hk⟩ := hp.others ha hs hm hne
    have hid : s₁.id = id := World.id_of_session? hs₁
    rw [hu]
    exact (h s₁ hs₁).elsewhere (by rwa [hid])

lemma AccountedIn.advance (h : t.AccountedIn id) (hp : t.Proper) (hd : t.OneByOne (startsIn id))
    (ha : t.underway = a ::ₘ rest) : (t.advance a rest).AccountedIn id := by
  have hmem : a ∈ t.underway := by
    rw [ha]
    exact Multiset.mem_cons_self a rest
  obtain ⟨s, hs⟩ := hp.session?_of_mem hmem
  obtain ⟨s', hm⟩ := Activity.move_advance hs
  have hacc := h.move hp hd ha hs hm
  rcases t.advance_eq a rest with he | ⟨hn, -, he⟩
  · rw [he]
    exact hacc
  · rw [hn] at hacc
    rw [he]
    intro s₁ hs₁
    have hs₁ : ((a.advance t.world).1.forget a.session).session? id = some s₁ := hs₁
    rw [World.session?_forget] at hs₁
    split_ifs at hs₁
    exact (hacc s₁ hs₁).elsewhere fun k _ => Status.MayAdmit.refl _

end Move

lemma AccountedIn.openSession (h : t.AccountedIn id) (hp : t.Proper) (kind : Session.Kind) :
    AccountedIn id ⟨(t.world.openSession kind).2, t.underway⟩ := by
  intro s hs
  have hs : (t.world.openSession kind).2.session? id = some s := hs
  rw [hp.session?_openSession] at hs
  split_ifs at hs with hid
  · cases hs
    obtain ⟨hu, hk⟩ := hp.absent _ hp.session?_new
    subst hid
    show Accounted _ _ (t.within _)
    rw [hu]
    exact .fresh _ kind hk
  · exact (h s hs).elsewhere fun k _ => Status.MayAdmit.refl _

lemma AccountedIn.begin (h : t.AccountedIn id) {a : Activity} (ha : a.isFresh)
    (hb : ∀ b ∈ t.underway, b.session = a.session → a.closes = false ∧ b.closes = false) :
    AccountedIn id ⟨t.world, a ::ₘ t.underway⟩ := by
  intro s hid
  show Accounted t.world s (Activity.ofSession id (a ::ₘ t.underway))
  by_cases hne : a.session = id
  · rw [Activity.ofSession_cons hne]
    refine (h s hid).begin ha ?_ fun b hm => ?_
    · rw [hne]
      exact (World.id_of_session? hid).symm
    · obtain ⟨hm, hms⟩ := Activity.mem_ofSession.1 hm
      exact hb b hm (hms.trans hne.symm)
  · rw [Activity.ofSession_cons_ne hne]
    exact h s hid

lemma AccountedIn.step (h : t.AccountedIn id) (hp : t.Proper) (hd : t.OneByOne (startsIn id))
    (hs : Step t e t') : t'.AccountedIn id := by
  cases hs with
  | opened kind => exact h.openSession hp kind
  | begun ha _ hb => exact h.begin ha hb
  | advanced ha => exact h.advance hp hd ha
  | raised signal => cases signal <;> exact h.congr rfl fun _ => rfl
  | shutDown | indexed => exact h.congr rfl fun _ => rfl

lemma History.accounted (h : History (startsIn id) t₀ t) (hp : t₀.Proper)
    (h₀ : t₀.underway = 0) (hacc : t₀.AccountedIn id) : t.AccountedIn id := by
  induction h with
  | nil => exact hacc
  | step h hs _ ih => exact ih.step (h.proper hp) (h.oneByOne h₀) hs
  | direct h hd ih =>
    obtain ⟨locks, rfl, -⟩ := hd.eq_setLocks
    exact ih.congr rfl fun _ => rfl

lemma accountedIn_ofService (service : Service) (index : ViewIndex) (id : SessionId) :
    (ofService service index).AccountedIn id := by
  intro s hs
  cases hs

/-- While nothing goes on in a session, it is not guarded, and only its active query has a record. -/
lemma History.at_rest {settings : Settings} {service : Service}
    (hb : Service.build settings = .ok service) {index : ViewIndex}
    (h : History (startsIn id) (ofService service index) t) (hrest : t.within id = 0) {s : Session}
    (hs : t.world.session? id = some s) :
    s.guarded = false ∧
      ∀ k, k.session = id → t.world.service.status? k ≠ none → s.activeKey = some k := by
  have h₀ := accountedIn_ofService service index id
  have hacc := h.accounted (proper_ofService hb index) rfl h₀ s hs
  rw [hrest] at hacc
  have hkeys := hacc.at_rest
  rwa [World.id_of_session? hs] at hkeys

end Traffic

end QueryAdmission
