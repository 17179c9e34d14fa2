import QueryAdmission.Proofs.Drawn
import QueryAdmission.Proofs.Registration
import QueryAdmission.Proofs.Traffic

/-!
# Keys are used once

However many sessions are opened and closed, and whatever goes on in them, every key that is drawn
is ahead of all that were drawn before (`KeysInOrder.nextKey_notMem`). It is used once at most, and
no record has another key, so that a query that a start registers is always new
(`KeyedRun.keys_used_once`).
-/

namespace QueryAdmission

variable {σ : Type}

/-! ### A key without a record -/

namespace Service

variable {s : Service} {key : QueryKey}

/-- A query that has no record is refused, or it is put behind the others. -/
lemma register_of_find?_eq_none (hf : s.find? key = none) (affected : List ViewId)
    (transaction : TransactionId) :
    let roster := s.schedule.roster
    let x := s.register key affected transaction
    let new : Record := ⟨key, .waiting, affected, transaction, roster.arrivals + 1⟩
    (∃ refusal, x.1 = .error refusal ∧ x.2.records = s.records) ∨
      ∃ others record, x.1 = .ok record ∧
        x.2 = s.enter { roster with
          records := roster.records ++ [new], arrivals := roster.arrivals + 1 } ∧
        x.2.records = others ++ [record] ∧ List.Forall₂ Record.Pass s.records others ∧
        new.Pass record := by
  intro roster x new
  rcases hx : x.1 with refusal | record
  · refine .inl ⟨refusal, rfl, ?_⟩
    rw [snd_register_of_error hx]
    split <;> rfl
  · right
    have hopen : s.isShut = false := Bool.eq_false_iff.2 fun hs => by
      cases hx.symm.trans (congrArg Prod.fst (register_of_shut hs))
    rcases hr : roster.register key affected transaction with refusal | ⟨first, left⟩
    · cases hx.symm.trans ((fst_register_eq_error_iff hopen).2 hr)
    · have hshort : affected.length ≤ roster.maxAffected := by
        by_contra hlong
        rw [Roster.register, if_pos (Nat.lt_of_not_le hlong)] at hr
        cases hr
      have hroom : s.records.length < roster.capacity := by
        rcases Roster.register_eq_ok hr with ⟨hold, -⟩ | ⟨-, hroom, -⟩
        · cases hf.symm.trans hold
        · exact hroom
      obtain ⟨others, last, heq, -, hrecords, hothers, hpass⟩ :=
        register_of_find?_none transaction hopen hshort hf hroom
      have hfst : x.1 = .ok last := congrArg Prod.fst heq
      have hsnd : x.2 = s.enter { roster with
          records := roster.records ++ [new], arrivals := roster.arrivals + 1 } :=
        congrArg Prod.snd heq
      refine ⟨others, last, ?_, hsnd, ?_, hothers, hpass⟩
      · rw [← hx, hfst]
      · rw [hsnd]
        exact hrecords

end Service

/-! ### Keys that were drawn -/

/-- All keys that were drawn so far: those in hand, and those that were used. -/
def drawnKeys (underway : Multiset Activity) (used : List QueryKey) : Multiset QueryKey :=
  underway.bind Activity.drawn + used

lemma drawnKeys_cons (a : Activity) (rest : Multiset Activity) (used : List QueryKey) :
    drawnKeys (a ::ₘ rest) used = a.drawn + drawnKeys rest used := by
  rw [drawnKeys, Multiset.cons_bind, add_assoc]
  rfl

/-- After a section, its activity has other keys in hand, and one may have been used. -/
lemma drawnKeys_after (a' : Option Activity) (rest : Multiset Activity) (used : List QueryKey)
    (key? : Option QueryKey) :
    drawnKeys (Activity.after a' rest) (used ++ key?.toList)
      = a'.elim 0 Activity.drawn + key?.toList + drawnKeys rest used := by
  have h : (Activity.after a' rest).bind Activity.drawn
      = a'.elim 0 Activity.drawn + rest.bind Activity.drawn := by
    cases a' with
    | none => exact (zero_add _).symm
    | some b => exact Multiset.cons_bind b rest _
  rw [drawnKeys, drawnKeys, h, ← Multiset.coe_add, add_comm (used : Multiset QueryKey),
    add_add_add_comm]

/-! ### Keys at any time -/

variable {w w' : World σ} {underway rest : Multiset Activity} {used : List QueryKey} {a : Activity}

lemma World.exists_session_of_counter? {id : SessionId} (h : w.counter? id ≠ none) :
    ∃ s, w.session? id = some s := by
  rw [counter?, Ne, Option.map_eq_none_iff] at h
  exact Option.ne_none_iff_exists'.1 h

lemma Activity.card_ofSession_after_le {a' : Option Activity}
    (h : ∀ b ∈ a', b.session = a.session) (id : SessionId) :
    (ofSession id (after a' rest)).card ≤ (ofSession id (a ::ₘ rest)).card := by
  by_cases hid : a.session = id
  · rw [ofSession_after fun b hb => (h b hb).trans hid, ofSession_cons hid, Multiset.card_cons]
    cases a' with
    | none => exact Nat.le_succ _
    | some b => exact Nat.le_of_eq (Multiset.card_cons b _)
  · rw [ofSession_after_ne fun b hb => (h b hb).symm ▸ hid, ofSession_cons_ne hid]

/-- What is true of keys at any time: those that were drawn are different, no session will draw one
of them again, and whatever has a record was used and belongs to a session that is open. -/
structure KeysInOrder (w : World σ) (underway : Multiset Activity) (used : List QueryKey) :
    Prop where
  numbered : ∀ id, w.counter? id ≠ none → id.number ≤ w.service.opened
  attached : ∀ a ∈ underway, w.counter? a.session ≠ none
  alone : ∀ a ∈ underway, a.closes → (Activity.ofSession a.session underway).card ≤ 1
  own : ∀ a ∈ underway, ∀ k ∈ a.drawn, k.session = a.session
  nodup : (drawnKeys underway used).Nodup
  spent : ∀ k ∈ drawnKeys underway used,
    k.session.number ≤ w.service.opened ∧ ∀ n ∈ w.counter? k.session, k.sequence ≤ n
  known : ∀ k, w.service.status? k ≠ none → k ∈ used ∧ w.counter? k.session ≠ none

lemma keysInOrder_ofSettings (settings : Settings) (host : σ) :
    KeysInOrder (.ofService (.ofSettings settings) host) 0 [] where
  numbered _ h := absurd rfl h
  attached a ha := absurd ha (Multiset.notMem_zero a)
  alone a ha := absurd ha (Multiset.notMem_zero a)
  own a ha := absurd ha (Multiset.notMem_zero a)
  nodup := Multiset.nodup_zero
  spent k hm := absurd hm (Multiset.notMem_zero k)
  known _ h := absurd rfl h

lemma KeysInOrder.congr (h : KeysInOrder w underway used) (hw : w.NoneJoins w') :
    KeysInOrder w' underway used where
  numbered id hid := by
    rw [hw.counter?_eq] at hid
    rw [hw.opened_eq]
    exact h.numbered id hid
  attached a ha := by
    rw [hw.counter?_eq]
    exact h.attached a ha
  alone := h.alone
  own := h.own
  nodup := h.nodup
  spent k hk := by
    rw [hw.counter?_eq, hw.opened_eq]
    exact h.spent k hk
  known k hk := by
    rw [hw.counter?_eq]
    exact h.known k fun hn => hk (hw.absent k hn)

/-- Keys that were drawn stay drawn, and one more may be. -/
lemma World.KeyStep.drawnKeys_or {a' : Option Activity} {key? : Option QueryKey}
    (hk : w.KeyStep a.session a.drawn key? w' (a'.elim 0 Activity.drawn)) :
    drawnKeys (Activity.after a' rest) (used ++ key?.toList) = drawnKeys (a ::ₘ rest) used ∨
      ∃ s, w.session? a.session = some s ∧
        drawnKeys (Activity.after a' rest) (used ++ key?.toList)
          = s.nextKey ::ₘ drawnKeys (a ::ₘ rest) used ∧
        w'.counter? a.session = some (s.sequence + 1) := by
  rw [drawnKeys_after, drawnKeys_cons]
  rcases hk.total_or with heq | ⟨s, hs, heq, hc⟩
  · exact .inl (by rw [heq])
  · exact .inr ⟨s, hs, by rw [heq, Multiset.cons_add], hc⟩

lemma KeysInOrder.exists_session (h : KeysInOrder w underway used) (ha : a ∈ underway) :
    ∃ s, w.session? a.session = some s := World.exists_session_of_counter? (h.attached a ha)

/-- Nothing goes on beside the closing of a session. -/
lemma KeysInOrder.session_ne (h : KeysInOrder w (a ::ₘ rest) used) (hc : a.closes) :
    ∀ b ∈ rest, b.session ≠ a.session := by
  intro b hb hs
  have hcard := h.alone a (Multiset.mem_cons_self a rest) hc
  rw [Activity.ofSession_cons rfl, Multiset.card_cons] at hcard
  have hpos := Multiset.card_pos_iff_exists_mem.2 ⟨b, Activity.mem_ofSession.2 ⟨hb, hs⟩⟩
  omega

/-- The session's next key is ahead of all that were drawn. -/
lemma KeysInOrder.nextKey_notMem (h : KeysInOrder w underway used) {id : SessionId} {s : Session}
    (hs : w.session? id = some s) : s.nextKey ∉ drawnKeys underway used := by
  intro hm
  have hc : w.counter? s.id = some s.sequence := by
    rw [World.counter?, World.id_of_session? hs, hs]
    rfl
  exact absurd ((h.spent s.nextKey hm).2 _ hc) (Nat.not_succ_le_self _)

/-- A section keeps it true. -/
lemma KeysInOrder.step (h : KeysInOrder w (a ::ₘ rest) used) {a' : Option Activity}
    {key? : Option QueryKey}
    (hk : w.KeyStep a.session a.drawn key? w' (a'.elim 0 Activity.drawn))
    (hsame : ∀ b ∈ a', b.session = a.session ∧ b.closes = a.closes) :
    KeysInOrder w' (Activity.after a' rest) (used ++ key?.toList) := by
  have hma := Multiset.mem_cons_self a rest
  have hopen := h.attached a hma
  -- Whatever goes on now comes of something in the same session.
  have hfrom {b : Activity} (hb : b ∈ Activity.after a' rest) :
      ∃ b₀ ∈ a ::ₘ rest, b.session = b₀.session ∧ b.closes = b₀.closes := by
    rcases Activity.mem_after.1 hb with hb | hb
    · exact ⟨a, hma, hsame b hb⟩
    · exact ⟨b, Multiset.mem_cons_of_mem hb, rfl, rfl⟩
  have hspent (k : QueryKey) (hm : k ∈ drawnKeys (a ::ₘ rest) used) :
      k.session.number ≤ w'.service.opened ∧ ∀ n ∈ w'.counter? k.session, k.sequence ≤ n := by
    obtain ⟨hopened, hle⟩ := h.spent k hm
    exact ⟨hk.opened_eq ▸ hopened, hk.le_counter? hle⟩
  refine ⟨fun id hid => ?_, fun b hb => ?_, fun b hb hc => ?_, fun b hb k hkb => ?_, ?_, ?_,
    fun k hst => ?_⟩
  · rw [hk.opened_eq]
    exact h.numbered id fun hn => hid ((hk.counter?_eq_none id).2 hn)
  · obtain ⟨b₀, hb₀, hs, -⟩ := hfrom hb
    rw [hs, Ne, hk.counter?_eq_none]
    exact h.attached b₀ hb₀
  · obtain ⟨b₀, hb₀, hs, hcl⟩ := hfrom hb
    rw [hs]
    exact Nat.le_trans (Activity.card_ofSession_after_le (fun b hb => (hsame b hb).1) _)
      (h.alone b₀ hb₀ (hcl ▸ hc))
  · rcases Activity.mem_after.1 hb with rfl | hb
    · rw [(hsame b rfl).1]
      exact (hk.mem_or hkb).elim (h.own a hma k) id
    · exact h.own b (Multiset.mem_cons_of_mem hb) k hkb
  · rcases hk.drawnKeys_or with heq | ⟨s, hs, heq, -⟩
    · rw [heq]
      exact h.nodup
    · rw [heq]
      exact Multiset.nodup_cons.2 ⟨h.nextKey_notMem hs, h.nodup⟩
  · rcases hk.drawnKeys_or with heq | ⟨s, hs, heq, hc⟩
    · rw [heq]
      exact hspent
    · rw [heq]
      intro k hm
      rcases Multiset.mem_cons.1 hm with rfl | hm
      · rw [show s.nextKey.session = a.session from World.id_of_session? hs, hk.opened_eq, hc]
        refine ⟨h.numbered a.session hopen, fun n hn => ?_⟩
        cases hn
        exact Nat.le_refl _
      · exact hspent k hm
  · rw [Ne, hk.counter?_eq_none]
    rcases hk.registered hst with hst | rfl
    · obtain ⟨hu, hks⟩ := h.known k hst
      exact ⟨List.mem_append_left _ hu, hks⟩
    · rw [h.own a hma k hk.mem_of_some]
      exact ⟨List.mem_append_right _ (List.mem_singleton_self k), hopen⟩

lemma World.counter?_forget (w : World σ) (id other : SessionId) :
    (w.forget id).counter? other = if other = id then none else w.counter? other := by
  rw [counter?, session?_forget]
  split_ifs <;> rfl

/-- A session in which nothing goes on and that has no records may be forgotten. -/
lemma KeysInOrder.forget (h : KeysInOrder w underway used) {id : SessionId}
    (hu : ∀ a ∈ underway, a.session ≠ id)
    (hk : ∀ k, k.session = id → w.service.status? k = none) :
    KeysInOrder (w.forget id) underway used where
  numbered other hc := by
    rw [World.counter?_forget] at hc
    split_ifs at hc with ho
    · exact absurd rfl hc
    · exact h.numbered other hc
  attached a ha := by
    rw [World.counter?_forget, if_neg (hu a ha)]
    exact h.attached a ha
  alone := h.alone
  own := h.own
  nodup := h.nodup
  spent k hm := by
    refine ⟨(h.spent k hm).1, fun n hn => ?_⟩
    rw [World.counter?_forget] at hn
    split_ifs at hn
    · cases hn
    · exact (h.spent k hm).2 n hn
  known k hst := by
    have hne : k.session ≠ id := fun hs => hst (hk k hs)
    rw [World.counter?_forget, if_neg hne]
    exact h.known k hst

/-- The number of a session that is opened is new. -/
lemma KeysInOrder.counter?_openSession (h : KeysInOrder w underway used) (kind : Session.Kind)
    (id : SessionId) :
    (w.openSession kind).2.counter? id
      = if id = ⟨w.service.opened + 1⟩ then some 0 else w.counter? id := by
  have hnew : w.counter? ⟨w.service.opened + 1⟩ = none := by
    by_contra hc
    exact absurd (h.numbered _ hc) (Nat.not_succ_le_self _)
  show ((w.sessions ++ [Session.fresh ⟨w.service.opened + 1⟩ kind]).find? _).map _ = _
  rw [List.find?_append, List.find?_singleton, Option.map_or]
  show (w.counter? id).or _ = _
  by_cases hid : id = ⟨w.service.opened + 1⟩
  · rw [hid, hnew]
    simp [Session.fresh]
  · simp [Session.fresh, hid, Ne.symm hid]

lemma KeysInOrder.openSession (h : KeysInOrder w underway used) (kind : Session.Kind) :
    KeysInOrder (w.openSession kind).2 underway used where
  numbered id hc := by
    show id.number ≤ w.service.opened + 1
    rw [h.counter?_openSession] at hc
    split_ifs at hc with hid
    · rw [hid]
    · exact Nat.le_succ_of_le (h.numbered id hc)
  attached a ha := by
    rw [h.counter?_openSession]
    split_ifs
    · exact Option.some_ne_none 0
    · exact h.attached a ha
  alone := h.alone
  own := h.own
  nodup := h.nodup
  spent k hm := by
    obtain ⟨hopened, hle⟩ := h.spent k hm
    refine ⟨Nat.le_succ_of_le hopened, fun n hn => ?_⟩
    rw [h.counter?_openSession] at hn
    split_ifs at hn with hid
    · rw [hid] at hopened
      exact absurd hopened (Nat.not_succ_le_self _)
    · exact hle n hn
  known k hst := by
    obtain ⟨hu, hopen⟩ := h.known k hst
    rw [h.counter?_openSession]
    split_ifs
    · exact ⟨hu, Option.some_ne_none 0⟩
    · exact ⟨hu, hopen⟩

lemma KeysInOrder.begin (h : KeysInOrder w underway used) (ha : a.isFresh)
    (hs : w.session? a.session ≠ none)
    (hb : ∀ b ∈ underway, b.session = a.session → a.closes = false ∧ b.closes = false) :
    KeysInOrder w (a ::ₘ underway) used := by
  have hdrawn := Activity.drawn_of_isFresh ha
  have htotal : drawnKeys (a ::ₘ underway) used = drawnKeys underway used := by
    rw [drawnKeys_cons, hdrawn, zero_add]
  refine ⟨h.numbered, ?_, ?_, ?_, htotal ▸ h.nodup, ?_, h.known⟩
  · intro b hm
    rcases Multiset.mem_cons.1 hm with rfl | hm
    · exact fun hn => hs (Option.map_eq_none_iff.1 hn)
    · exact h.attached b hm
  · intro b hm hc
    rcases Multiset.mem_cons.1 hm with rfl | hm
    · -- Nothing else goes on in a session that is closed by it.
      have hnone : Activity.ofSession b.session underway = 0 := by
        refine Multiset.eq_zero_of_forall_notMem fun b' hm' => ?_
        obtain ⟨hm', hs'⟩ := Activity.mem_ofSession.1 hm'
        cases (hb b' hm' hs').1.symm.trans hc
      rw [Activity.ofSession_cons rfl, hnone]
      exact Nat.le_refl _
    · have hne : a.session ≠ b.session := fun heq => by
        cases (hb b hm heq.symm).2.symm.trans hc
      rw [Activity.ofSession_cons_ne hne]
      exact h.alone b hm hc
  · intro b hm k hk
    rcases Multiset.mem_cons.1 hm with rfl | hm
    · rw [hdrawn] at hk
      exact absurd hk (Multiset.notMem_zero k)
    · exact h.own b hm k hk
  · intro k hm
    exact h.spent k (htotal ▸ hm)

variable [Locking σ] [Catalogue σ]

/-! ### All that may go on -/

/-- What may become of a scheduler with these settings and of its sessions, on a host that changes
as it likes, with the keys that starts have registered so far. Only starts register queries; all
else may also be done with the scheduler by hand. An activity begins in a session that is open; a
session is closed only when nothing else goes on in it, and nothing begins there after that. -/
inductive KeyedRun (settings : Settings) :
    World σ → Multiset Activity → List QueryKey → Prop
  | built {service : Service} (h : Service.build settings = .ok service) (host : σ) :
      KeyedRun settings (.ofService service host) 0 []
  | opened {w : World σ} {underway : Multiset Activity} {used : List QueryKey}
      (h : KeyedRun settings w underway used) (kind : Session.Kind) :
      KeyedRun settings (w.openSession kind).2 underway used
  | begun {w : World σ} {underway : Multiset Activity} {used : List QueryKey} {a : Activity}
      (h : KeyedRun settings w underway used) (ha : a.isFresh) (hs : w.session? a.session ≠ none)
      (hb : ∀ b ∈ underway, b.session = a.session → a.closes = false ∧ b.closes = false) :
      KeyedRun settings w (a ::ₘ underway) used
  | advanced {w : World σ} {a : Activity} {rest : Multiset Activity} {used : List QueryKey}
      (h : KeyedRun settings w (a ::ₘ rest) used)
      (hc : (a.advance w).2.call? ≠ none ∨ a.closes = false) :
      KeyedRun settings (a.advance w).1 (Activity.after (a.advance w).2.call? rest)
        (used ++ a.registers?.toList)
  | closed {w : World σ} {a : Activity} {rest : Multiset Activity} {used : List QueryKey}
      (h : KeyedRun settings w (a ::ₘ rest) used) (hn : (a.advance w).2.call? = none)
      (hc : a.closes) : KeyedRun settings ((a.advance w).1.forget a.session) rest used
  | operated {w : World σ} {underway : Multiset Activity} {used : List QueryKey} {op : Service.Op}
      (h : KeyedRun settings w underway used)
      (ho : ∀ key affected transaction, op ≠ .register key affected transaction) :
      KeyedRun settings { w with service := w.service.apply op } underway used
  | looked {w : World σ} {underway : Multiset Activity} {used : List QueryKey}
      (h : KeyedRun settings w underway used) (key : QueryKey) :
      KeyedRun settings { w with service := (w.service.look key).2 } underway used
  | departed {w : World σ} {underway : Multiset Activity} {used : List QueryKey}
      (h : KeyedRun settings w underway used) (key : QueryKey) (why : Departure) :
      KeyedRun settings { w with service := w.service.depart key why } underway used
  | elsewhere {w : World σ} {underway : Multiset Activity} {used : List QueryKey}
      (h : KeyedRun settings w underway used) (signals : Signals Signal) (host : σ) :
      KeyedRun settings { w with signals, host } underway used

namespace KeyedRun

variable {settings : Settings}

lemma keysInOrder (h : KeyedRun settings w underway used) : KeysInOrder w underway used := by
  induction h with
  | built hb host =>
    obtain ⟨rfl, -⟩ := Service.build_eq_ok hb
    exact keysInOrder_ofSettings settings host
  | opened _ kind ih => exact ih.openSession kind
  | begun _ ha hs hb ih => exact ih.begin ha hs hb
  | @advanced w a rest used _ _ ih =>
    obtain ⟨s, hs⟩ := ih.exists_session (Multiset.mem_cons_self a rest)
    exact ih.step (Activity.keyStep hs) fun b hb => Activity.same_advance hb
  | @closed w a rest used _ hn hc ih =>
    obtain ⟨s, hs⟩ := ih.exists_session (Multiset.mem_cons_self a rest)
    have hstep := ih.step (Activity.keyStep hs) fun b hb => Activity.same_advance hb
    rw [hn, Activity.registers?_of_closes hc, Option.toList_none, List.append_nil] at hstep
    exact hstep.forget (ih.session_ne hc) fun k hk => Activity.swept_advance hs hc hn hk
  | operated _ ho ih => exact ih.congr (World.noneJoins_apply _ ho)
  | @looked w _ _ _ key ih =>
    exact ih.congr (World.noneJoins_service (w.service.alike_look key)
      fun k hn => Service.status?_look_eq_none key hn)
  | @departed w _ _ _ key why ih =>
    exact ih.congr (World.noneJoins_service (w.service.alike_depart key why)
      fun k hn => Service.status?_depart_eq_none key why hn)
  | elsewhere _ signals host ih => exact ih.congr ⟨rfl, fun _ h => h, fun _ => rfl⟩

/-- However many sessions are opened and closed, and whatever goes on in them, overlapping or not:

* The keys that starts have registered are all different.
* Whatever has a record was registered by a start, and its session is open and has counted that far.
* So a start that is about to register its query has a key that was not used so far, and that has no
  record. It is refused, and all records stay as they are; or a new waiting record is put last, with
  the next number, and a pass is made over all. -/
theorem keys_used_once (h : KeyedRun settings w underway used) :
    used.Nodup ∧
      (∀ r ∈ w.service.records, r.key ∈ used ∧
        ∃ s, w.session? r.session = some s ∧ r.key.sequence ≤ s.sequence) ∧
      ∀ c executes key, Activity.start c executes ∈ underway → c.registers? = some key →
        let s := w.service
        let roster := s.schedule.roster
        let x := s.register key c.query.affected c.query.transaction
        let new : Record :=
          ⟨key, .waiting, c.query.affected, c.query.transaction, roster.arrivals + 1⟩
        key ∉ used ∧ s.find? key = none ∧ (c.advance w).1 = { w with service := x.2 } ∧
          ((∃ refusal, x.1 = .error refusal ∧ (c.advance w).2 = .done (.error refusal) ∧
              x.2.records = s.records) ∨
            ∃ others record, x.1 = .ok record ∧
              x.2 = s.enter { roster with
                records := roster.records ++ [new], arrivals := roster.arrivals + 1 } ∧
              x.2.records = others ++ [record] ∧ List.Forall₂ Record.Pass s.records others ∧
              new.Pass record) := by
  have hkeys := h.keysInOrder
  obtain ⟨-, hnodup, hdisjoint⟩ := Multiset.nodup_add.1 hkeys.nodup
  refine ⟨Multiset.coe_nodup.1 hnodup, fun r hr => ?_, fun c executes key hc hreg => ?_⟩
  · have hst : w.service.status? r.key ≠ none := fun hn => Roster.status?_eq_none.1 hn r hr rfl
    obtain ⟨hu, hopen⟩ := hkeys.known r.key hst
    obtain ⟨s, hs⟩ := World.exists_session_of_counter? hopen
    refine ⟨hu, s, hs, ?_⟩
    have hm : r.key ∈ drawnKeys underway used := Multiset.mem_add.2 (.inr hu)
    refine (hkeys.spent r.key hm).2 s.sequence ?_
    rw [World.counter?, hs]
    rfl
  · intro s roster x new
    obtain ⟨hm, hadvance, hrefused⟩ := Start.advance_of_registers (w := w) hreg
    have hkey : key ∉ used := fun hu =>
      Multiset.disjoint_left.1 hdisjoint (Multiset.mem_bind.2 ⟨_, hc, hm⟩) hu
    have hf : s.find? key = none := by
      by_contra hf
      exact hkey (hkeys.known key fun hn => hf (Option.map_eq_none_iff.1 hn)).1
    refine ⟨hkey, hf, hadvance, ?_⟩
    rcases Service.register_of_find?_eq_none hf c.query.affected c.query.transaction with
      ⟨refusal, he, hrecords⟩ | hnew
    · exact .inl ⟨refusal, he, hrefused refusal he, hrecords⟩
    · exact .inr hnew

/-- Two starts of one session overlap, and the second one is the first to register its query. -/
theorem keys_used_once_overlapping :
    let late : Start := ⟨1, ⟨"select", 7, [], false, false⟩, .surveying ⟨1, 1⟩ (.ofViews [])⟩
    ∃ (w : World MemoryHost) (underway : Multiset Activity),
      KeyedRun ⟨2, 4, 4, .ofNanos 30000⟩ w underway [⟨1, 2⟩] ∧ .start late false ∈ underway ∧
        late.registers? = some ⟨1, 1⟩ ∧ w.service.find? ⟨1, 1⟩ = none ∧
        w.service.records = [⟨⟨1, 2⟩, .available, [], 8, 1⟩] ∧
        (late.advance w).1.service.records
          = [⟨⟨1, 2⟩, .available, [], 8, 1⟩, ⟨⟨1, 1⟩, .available, [], 7, 2⟩] := by
  intro late
  let host : MemoryHost := ⟨ViewIndex.empty, LockTable.empty⟩
  let early : Start := ⟨1, ⟨"select", 8, [], false, false⟩, .surveying ⟨1, 2⟩ (.ofViews [])⟩
  let first : Activity := .start (.ofQuery 1 late.query) false
  let second : Activity := .start (.ofQuery 1 early.query) false
  let w₁ := ((World.ofService (.ofSettings ⟨2, 4, 4, .ofNanos 30000⟩) host).openSession .backend).2
  let w₂ := (first.advance w₁).1
  let w₃ := (second.advance w₂).1
  have h₁ : KeyedRun ⟨2, 4, 4, .ofNanos 30000⟩ w₁ 0 [] := .opened (.built rfl host) .backend
  have h₂ := (h₁.begun (a := first) rfl (by decide +kernel) (by simp)).advanced (.inr rfl)
  have hfirst : (first.advance w₁).2.call? = some (.start late false) := by decide +kernel
  rw [hfirst] at h₂
  have h₃ : KeyedRun _ w₂ {.start late false} [] := h₂
  have hbegun := h₃.begun (a := second) rfl (by decide +kernel) (by decide +kernel)
  have h₄ := hbegun.advanced (.inr rfl)
  have hsecond : (second.advance w₂).2.call? = some (.start early false) := by decide +kernel
  rw [hsecond] at h₄
  have h₅ : KeyedRun _ w₃ (.start early false ::ₘ {.start late false}) [] := h₄
  have h := h₅.advanced (.inr rfl)
  have hm : Activity.start late false
      ∈ Activity.after ((Activity.start early false).advance w₃).2.call? {.start late false} :=
    Activity.mem_after.2 (.inr (Multiset.mem_singleton_self _))
  obtain ⟨-, -, hstarts⟩ := keys_used_once h
  obtain ⟨-, hf, -⟩ := hstarts late false ⟨1, 1⟩ hm rfl
  exact ⟨_, _, h, hm, rfl, hf, by decide +kernel, by decide +kernel⟩

end KeyedRun

end QueryAdmission
