import QueryAdmission.Proofs.InOrder
import QueryAdmission.Proofs.Traffic

/-!
# Traffic in which starts do not overlap

Traffic in which starts do not overlap is in order (`Traffic.Ordered`) in every state: each open
session is, no two sessions share a number, and no session that is not open has a table or a record.
-/

namespace QueryAdmission

open Status (MayAdmit)

namespace Traffic

/-- Traffic in order. -/
structure Ordered (t : Traffic) : Prop where
  sound : t.world.service.Sound
  numbered : ∀ id ∈ t.world.ids, id.number ≤ t.world.service.opened
  distinct : t.world.ids.Nodup
  present : ∀ id s, t.world.session? id = some s → InOrder t.world s (t.within id)
  absent : ∀ id, t.world.session? id = none → t.within id = 0 ∧
    (∀ u, t.world.host.locks.share id u = 0) ∧
    ∀ k, k.session = id → t.world.service.status? k = none

variable {t t' : Traffic} {e : Event} {events : List Event} {kind : Activity → Bool}

/-- Traffic in order is proper. -/
lemma Ordered.proper (h : t.Ordered) : t.Proper where
  sound := h.sound
  numbered := h.numbered
  distinct := h.distinct
  present id s hs := (h.present id s hs).regular
  absent id hn := ⟨(h.absent id hn).1, (h.absent id hn).2.2⟩

/-- Proper traffic is in order, if its sessions are and those that are not open have no tables. -/
lemma Proper.ordered (h : t.Proper)
    (hp : ∀ id s, t.world.session? id = some s → InOrder t.world s (t.within id))
    (hn : ∀ id, t.world.session? id = none → ∀ u, t.world.host.locks.share id u = 0) :
    t.Ordered where
  sound := h.sound
  numbered := h.numbered
  distinct := h.distinct
  present := hp
  absent id hs := ⟨(h.absent id hs).1, hn id hs, (h.absent id hs).2⟩

lemma ordered_ofService {settings : Settings} {service : Service}
    (hb : Service.build settings = .ok service) (index : ViewIndex) :
    (ofService service index).Ordered := by
  refine (proper_ofService hb index).ordered ?_ ?_
  · intro id s hs
    cases hs
  · intro id _ u
    rfl

/-- What changes neither sessions nor records nor locks leaves traffic in order. -/
lemma Ordered.congr (h : t.Ordered) {w : World MemoryHost} (hs : w.sessions = t.world.sessions)
    (ho : w.service.opened = t.world.service.opened)
    (hset : w.service.settings = t.world.service.settings)
    (hsch : w.service.schedule = t.world.service.schedule)
    (hl : w.host.locks = t.world.host.locks) : Ordered ⟨w, t.underway⟩ := by
  have hsess (id : SessionId) : w.session? id = t.world.session? id := by
    unfold World.session?
    rw [hs]
  refine (h.proper.congr hs ho hset hsch).ordered ?_ ?_
  · intro id s hid
    refine (h.present id s ((hsess id).symm.trans hid)).elsewhere ?_ fun k _ => ?_
    · intro u
      show w.host.locks.owner u = _ ↔ _
      rw [hl]
    · left
      show w.service.status? k = _
      unfold Service.status?
      rw [hsch]
  · intro id hid
    show ∀ u, w.host.locks.share id u = 0
    rw [hl]
    exact (h.absent id ((hsess id).symm.trans hid)).2.1

lemma Ordered.of_mem (h : t.Ordered) {s : Session} (hs : s ∈ t.world.sessions) :
    InOrder t.world s (t.within s.id) :=
  h.present s.id s (h.proper.session?_eq_some.2 ⟨hs, rfl⟩)

section Move

variable {a : Activity} {a' : Option Activity} {rest : Multiset Activity} {s s' : Session}
  {w : World MemoryHost}

lemma Ordered.inOrder_cons (h : t.Ordered) (ha : t.underway = a ::ₘ rest)
    (hs : t.world.session? a.session = some s) :
    InOrder t.world s (a ::ₘ Activity.ofSession a.session rest) := by
  have hin := h.present a.session s hs
  rwa [within, ha, Activity.ofSession_cons rfl] at hin

/-- A section keeps traffic in order, unless a session is closed by it. -/
lemma Ordered.move (h : t.Ordered) (ha : t.underway = a ::ₘ rest)
    (hr : ∀ b ∈ rest, b.session = a.session → a.isStart → b.isStart = false)
    (hs : t.world.session? a.session = some s) (hm : a.Move t.world s w s' a') :
    Ordered ⟨w, Activity.after a' rest⟩ := by
  refine (h.proper.move ha hs hm).ordered ?_ ?_
  · intro id s₁ hs₁
    have hs₁ : w.session? id = some s₁ := hs₁
    show InOrder w s₁ (Activity.ofSession id (Activity.after a' rest))
    by_cases hne : id = a.session
    · subst hne
      rw [hm.session?_eq hs] at hs₁
      cases hs₁
      rw [Activity.ofSession_after fun b hb => (hm.same hb).1]
      apply (h.inOrder_cons ha hs).advance h.sound hm
      intro b hb
      obtain ⟨hb, hbs⟩ := Activity.mem_ofSession.1 hb
      exact hr b hb hbs
    · rw [hm.session?_ne hne] at hs₁
      obtain ⟨hu, hl, hk⟩ := h.proper.others ha hs hm hne
      have hid : s₁.id = id := World.id_of_session? hs₁
      rw [hu]
      exact (h.present id s₁ hs₁).elsewhere (by rwa [hid]) (by rwa [hid])
  · intro id hn u
    have hn : w.session? id = none := hn
    have hne : id ≠ a.session := by
      rintro rfl
      rw [hm.session?_eq hs] at hn
      cases hn
    rw [hm.session?_ne hne] at hn
    obtain ⟨-, hl, -⟩ := h.proper.others ha hs hm hne
    rw [LockTable.share_eq_zero, ne_eq, hl, ← ne_eq, ← LockTable.share_eq_zero]
    exact (h.absent id hn).2.1 u

end Move

/-- A session in which nothing goes on and no query is active may be forgotten. -/
lemma Ordered.forget (h : t.Ordered) {s : Session} {id : SessionId}
    (hs : t.world.session? id = some s) (hu : t.within id = 0) (ha : s.active = none) :
    Ordered ⟨t.world.forget id, t.underway⟩ := by
  have hid : s.id = id := World.id_of_session? hs
  have hin := h.present id s hs
  rw [hu] at hin
  obtain ⟨hl, hk⟩ := hin.vacated ha
  rw [hid] at hl hk
  refine (h.proper.forget hu hk).ordered ?_ ?_
  · intro other s₁ hs₁
    have hs₁ : (t.world.forget id).session? other = some s₁ := hs₁
    rw [World.session?_forget] at hs₁
    split_ifs at hs₁ with ho
    exact (h.present other s₁ hs₁).elsewhere (fun u => Iff.rfl) fun k _ => Status.MayAdmit.refl _
  · intro other hn
    have hn : (t.world.forget id).session? other = none := hn
    rw [World.session?_forget] at hn
    split_ifs at hn with ho
    · subst ho
      exact hl
    · exact (h.absent other hn).2.1

lemma Ordered.advance (h : t.Ordered) {a : Activity} {rest : Multiset Activity}
    (ha : t.underway = a ::ₘ rest)
    (hr : ∀ b ∈ rest, b.session = a.session → a.isStart → b.isStart = false) :
    (t.advance a rest).Ordered := by
  have hmem : a ∈ t.underway := by
    rw [ha]
    exact Multiset.mem_cons_self a rest
  obtain ⟨s, hs⟩ := h.proper.session?_of_mem hmem
  obtain ⟨s', hm⟩ := Activity.move_advance hs
  have ho := h.move ha hr hs hm
  rcases t.advance_eq a rest with he | ⟨hp, hcl, he⟩
  · rw [he]
    exact ho
  · rw [hp] at ho hm
    rw [he]
    obtain ⟨hu, hv, -⟩ := h.proper.closing ha hs hm hcl
    exact ho.forget (hm.session?_eq hs) hu hv

lemma Ordered.openSession (h : t.Ordered) (kind : Session.Kind) :
    Ordered ⟨(t.world.openSession kind).2, t.underway⟩ := by
  refine (h.proper.openSession kind).ordered ?_ ?_
  · intro id s hs
    have hs : (t.world.openSession kind).2.session? id = some s := hs
    rw [h.proper.session?_openSession] at hs
    split_ifs at hs with hid
    · cases hs
      obtain ⟨hu, hl, hk⟩ := h.absent _ h.proper.session?_new
      subst hid
      show InOrder _ _ (t.within _)
      rw [hu]
      exact .fresh _ kind hl hk
    · exact (h.present id s hs).elsewhere (fun u => Iff.rfl) fun k _ => Status.MayAdmit.refl _
  · intro id hn
    have hn : (t.world.openSession kind).2.session? id = none := hn
    rw [h.proper.session?_openSession] at hn
    split_ifs at hn with hid
    exact (h.absent id hn).2.1

lemma Ordered.begin (h : t.Ordered) {a : Activity} (ha : a.isFresh)
    (hs : t.world.session? a.session ≠ none)
    (hb : ∀ b ∈ t.underway, b.session = a.session → a.closes = false ∧ b.closes = false) :
    Ordered ⟨t.world, a ::ₘ t.underway⟩ := by
  refine (h.proper.begin ha hs hb).ordered ?_ fun id hn => (h.absent id hn).2.1
  intro id s hid
  show InOrder t.world s (Activity.ofSession id (a ::ₘ t.underway))
  by_cases hne : a.session = id
  · rw [Activity.ofSession_cons hne]
    refine (h.present id s hid).begin ha ?_ fun b hm => ?_
    · rw [hne]
      exact (World.id_of_session? hid).symm
    · obtain ⟨hm, hms⟩ := Activity.mem_ofSession.1 hm
      exact hb b hm (hms.trans hne.symm)
  · rw [Activity.ofSession_cons_ne hne]
    exact h.present id s hid

/-- Whatever happens keeps traffic in order, as long as starts do not overlap. -/
lemma Ordered.step (h : t.Ordered) (hd : t.OneByOne kind) (hk : ∀ a, a.isStart → kind a)
    (hs : Step t e t') : t'.Ordered := by
  cases hs with
  | opened kind => exact h.openSession kind
  | begun ha hs hb => exact h.begin ha hs hb
  | @advanced a rest ha =>
    apply h.advance ha
    intro b hb hbs hst
    have hb := hd.not_both ha hb hbs (hk a hst)
    by_contra hn
    rw [hk b (by simpa using hn)] at hb
    cases hb
  | raised signal =>
    cases signal with
    | session | token => exact h.congr rfl rfl rfl rfl rfl
    | unshared => exact h
  | shutDown => exact h.congr rfl rfl rfl rfl rfl
  | indexed index => exact h.congr rfl rfl rfl rfl rfl

lemma Run.ordered {t₀ : Traffic} (ho : t₀.Ordered) (h₀ : t₀.underway = 0)
    (hk : ∀ a, a.isStart → kind a) (h : Run kind t₀ events t) : t.Ordered := by
  induction h with
  | nil => exact ho
  | snoc h hs _ ih => exact ih.step (h.oneByOne h₀) hk hs

end Traffic

end QueryAdmission
