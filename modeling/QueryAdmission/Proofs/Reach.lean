import QueryAdmission.Proofs.History
import QueryAdmission.Proofs.Ranked
import QueryAdmission.Proofs.Scopes

/-!
# All that may become of a world

The worlds that come of a scheduler with settings in order, in whatever way it is used
(`World.Reached`): sections of any calls follow each other in any order, whether there ever was a
call that led there or not, and between them operations are carried out by hand. There is no
discipline in this, so that whatever holds of all these worlds holds in the middle of any traffic
(`Traffic.History.reached`). The scheduler in such a world is one that operations lead to.
-/

namespace QueryAdmission

/-- The worlds that come of a scheduler with settings in order, on a host on which no table is
locked. -/
inductive World.Reached (settings : Settings) : World MemoryHost → Prop
  | built {service : Service} (h : Service.build settings = .ok service) (index : ViewIndex) :
      Reached settings (.ofService service ⟨index, .empty⟩)
  /-- A section of a call. -/
  | advanced {w : World MemoryHost} (h : Reached settings w) (c : Call) :
      Reached settings (c.advance w).1
  /-- An operation by hand. -/
  | effect {w : World MemoryHost} (h : Reached settings w) (op : Op) : Reached settings (op.effect w)
  /-- An execution or a utility command begins in a session, or ends. -/
  | bracketed {w : World MemoryHost} (h : Reached settings w) (id : SessionId)
      {f : Session → Session} (hf : Activity.IsBracket f) : Reached settings (w.update id f)
  | indexed {w : World MemoryHost} (h : Reached settings w) (index : ViewIndex) :
      Reached settings { w with host := { w.host with index } }

variable {settings : Settings}

/-! ### The scheduler in such a world -/

section Sections

variable {w w' : World MemoryHost} (h : w.service.Reached settings)

include h

lemma Wait.reached_advance (c : Wait) : (c.advance w).1.service.Reached settings := by
  rcases hp : c.phase with _ | _ | why
  · have hl := h.looked c.key
    rcases heq : w.service.look c.key with ⟨_ | _ | _, service⟩ <;> rw [heq] at hl <;>
      simpa [advance, hp, heq] using hl
  · rcases hd : c.departure? w with _ | why <;> simpa [advance, hp, hd] using h
  · simpa [advance, hp] using h.departed c.key why

lemma Admission.Move.reached {a : Admission} {p : Progress Admission (Except Refusal (List TableId))}
    (hm : a.Move w w' p) : w'.service.Reached settings := by
  cases hm with
  | gone | called | slept | contact | lost | returned | failed => exact h
  | @granted c service _ _ hl | @queued c service _ _ hl =>
    have hr := h.looked c.key
    rwa [hl] at hr
  | @departed c why => exact h.departed c.key why
  | began => exact h.applied (.markRunning a.key)
  | retreated => exact h.applied (.giveUp a.key)

lemma Start.Move.reached {c : Start} {s s' : Session}
    {p : Progress Start (Except Refusal (Option QueryKey))} (hm : c.Move w s w' s' p) :
    w'.service.Reached settings := by
  cases hm with
  | barred | ignored | entered | returned | asked | approved | denied | installed | unlocked |
    failed => exact h
  | @finished key stale => exact h.applied (.complete stale)
  | @registered key _ _ service _ hr =>
    have ha := h.applied (.register key c.query.affected c.query.transaction)
    rwa [Service.apply, hr] at ha
  | @refused key _ _ service _ hr =>
    have ha := h.applied (.register key c.query.affected c.query.transaction)
    rwa [Service.apply, hr] at ha
  | admission _ hm => exact hm.reached h

lemma Finish.Move.reached {c : Finish} {s s' : Session} {p : Progress Finish Unit}
    (hm : c.Move w s w' s' p) : w'.service.Reached settings := by
  cases hm with
  | barred | idle | took | returned => exact h
  | completed => exact h.applied (.complete c.key)

lemma Abort.Move.reached {c : Abort} {s s' : Session} {p : Progress Abort Unit}
    (hm : c.Move w s w' s' p) : w'.service.Reached settings := by
  cases hm with
  | barred | took | returned => exact h
  | swept => exact h.applied (.sweep c.session)

lemma Call.reached_advance (c : Call) : (c.advance w).1.service.Reached settings := by
  cases c with
  | start c =>
    rw [advance, fst_embed]
    rcases c.exists_move w with hw | ⟨s, s', -, hm⟩
    · rwa [hw]
    · exact hm.reached h
  | finish c =>
    rw [advance, fst_embed]
    rcases c.exists_move w with hw | ⟨s, s', -, hm⟩
    · rwa [hw]
    · exact hm.reached h
  | abort c =>
    rw [advance, fst_embed]
    rcases c.exists_move w with hw | ⟨s, s', -, hm⟩
    · rwa [hw]
    · exact hm.reached h
  | wait c =>
    rw [advance, fst_embed]
    exact c.reached_advance h
  | admission a =>
    rw [advance, fst_embed]
    exact (a.move_advance w).reached h

lemma Op.reached_effect (op : Op) : (op.effect w).service.Reached settings := by
  cases op with
  | openSession => exact h.opened
  | register key affected transaction => exact h.applied (.register key affected transaction)
  | complete key => exact h.applied (.complete key)
  | pass => exact h.applied .pass
  | giveUp key => exact h.applied (.giveUp key)
  | markRunning key => exact h.applied (.markRunning key)
  | sweep id => exact h.applied (.sweep id)
  | shutDown => exact h.applied .shutDown
  | raise signal => cases signal <;> exact h
  | closeSession | lock | unlock | view | unview | call | spawn | survey | dependencies | status |
    held | owner | locksHeld => exact h

end Sections

lemma World.Reached.service {w : World MemoryHost} (h : w.Reached settings) :
    w.service.Reached settings := by
  induction h with
  | built hb => exact .built hb
  | advanced _ c ih => exact c.reached_advance ih
  | effect _ op ih => exact op.reached_effect ih
  | bracketed _ _ _ ih | indexed _ _ ih => exact ih

lemma World.Reached.runUntilAsleep {w : World MemoryHost} (h : w.Reached settings) (fuel : Nat)
    (c : Call) : (runUntilAsleep fuel w c).1.Reached settings := by
  induction fuel generalizing w c with
  | zero => exact h
  | succ fuel ih =>
    have hc : (Stepping.step w c).1.Reached settings := h.advanced c
    rw [QueryAdmission.runUntilAsleep]
    rcases heq : Stepping.step w c with ⟨w', c' | c' | r⟩ <;> rw [heq] at hc
    · exact ih hc c'
    · exact hc
    · exact hc

/-! ### Traffic -/

namespace Activity

variable {w : World MemoryHost}

/-- A section of an activity is one of a call, or an execution or a utility command begins or ends
by it. -/
lemma reached_advance (h : w.Reached settings) (a : Activity) :
    (a.advance w).1.Reached settings := by
  cases a with
  | start c executes =>
    have hc := h.advanced (.start c)
    rwa [Call.advance, Call.fst_embed] at hc
  | finish c =>
    have hc := h.advanced (.finish c)
    rwa [Call.advance, Call.fst_embed] at hc
  | abort c closes =>
    have hc := h.advanced (.abort c)
    rwa [Call.advance, Call.fst_embed] at hc
  | entering id key =>
    rw [advance]
    split_ifs
    · exact h
    · exact h.bracketed id isBracket_enter
  | inside id key =>
    rw [advance]
    split_ifs
    · exact h
    · exact h.bracketed id isBracket_leave
  | utility id before =>
    cases before with
    | none =>
      rw [advance]
      split_ifs
      · exact h
      · exact h.bracketed id (isBracket_setUtility true)
    | some before =>
      rw [advance]
      split_ifs
      · exact h
      · exact h.bracketed id (isBracket_setUtility before)

end Activity

namespace Traffic

variable {t t' : Traffic} {e : Event} {kind : Activity → Bool}

lemma Step.reached (hs : Step t e t') (h : t.world.Reached settings) :
    t'.world.Reached settings := by
  cases hs with
  | opened kind => exact h.effect (.openSession kind)
  | begun => exact h
  | @advanced a rest =>
    have ha := a.reached_advance h
    rcases t.advance_eq a rest with he | ⟨-, -, he⟩
    · rw [he]
      exact ha
    · rw [he]
      exact ha.effect (.closeSession a.session)
  | raised signal => exact h.effect (.raise signal)
  | shutDown => exact h.effect .shutDown
  | indexed index => exact h.indexed index

/-- Whatever happens in traffic, under whatever discipline, it leads to such a world. -/
lemma History.reached {service : Service} (hb : Service.build settings = .ok service)
    {index : ViewIndex} (h : History kind (ofService service index) t) :
    t.world.Reached settings := by
  induction h with
  | nil => exact .built hb index
  | step _ hs _ ih => exact hs.reached ih
  | @direct t t' id _ hd ih =>
    cases hd with
    | lock u => exact ih.effect (.lock id u)
    | unlock u => exact ih.effect (.unlock id u)

end Traffic

end QueryAdmission
