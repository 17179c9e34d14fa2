import Mathlib.Tactic.Lemma
import QueryAdmission.Call

/-!
# What is recorded changes nothing

A recorded host keeps a record of the contacts that are made with it, and no call ever looks at it.
So the sections of a call do to the bare world, without the record, what they do to it with the
record (`Oblivious`).
-/

namespace QueryAdmission

variable {σ : Type}

namespace World

/-- The world without the record of contacts. -/
def bare (w : World (Recorded σ)) : World σ := ⟨w.service, w.sessions, w.signals, w.host.inner⟩

@[simp] lemma service_bare (w : World (Recorded σ)) : w.bare.service = w.service := rfl

@[simp] lemma session?_bare (w : World (Recorded σ)) (id : SessionId) :
    w.bare.session? id = w.session? id := rfl

@[simp] lemma isGuarded_bare (w : World (Recorded σ)) (id : SessionId) :
    w.bare.isGuarded id = w.isGuarded id := rfl

@[simp] lemma bare_update (w : World (Recorded σ)) (id : SessionId) (f : Session → Session) :
    (w.update id f).bare = w.bare.update id f := rfl

@[simp] lemma bare_unlock [Locking σ] (w : World (Recorded σ)) (id : SessionId) (t : TableId) :
    (w.unlock id t).bare = w.bare.unlock id t := rfl

end World

/-- Calls that do not look at the record of contacts. -/
class Oblivious (γ : Type) {ρ : outParam Type} [Stepping γ ρ] : Prop where
  step_bare : ∀ {σ : Type} [Catalogue σ] [Locking σ] (w : World (Recorded σ)) (c : γ),
    Stepping.step w.bare c = ((Stepping.step w c).1.bare, (Stepping.step w c).2)

lemma Wait.advance_bare (w : World (Recorded σ)) (c : Wait) :
    c.advance w.bare = ((c.advance w).1.bare, (c.advance w).2) := by
  rcases hp : c.phase with _ | _ | why
  · rcases hl : w.service.look c.key with ⟨_ | _ | _, service⟩ <;>
      simp [advance, hp, hl, World.bare]
  · have hd : c.departure? w.bare = c.departure? w := rfl
    rcases hw : c.departure? w with _ | why <;> simp [advance, hp, hd, hw]
  · simp [advance, hp, World.bare]

lemma Call.embed_bare {γ ρ : Type} (around : γ → Call) (reply : ρ → Except Refusal Reply)
    (x : World (Recorded σ) × Progress γ ρ) :
    embed around reply (x.1.bare, x.2)
      = ((embed around reply x).1.bare, (embed around reply x).2) := by
  rcases x with ⟨w, c | c | r⟩ <;> rfl

lemma Survey.ask_bare [Catalogue σ] (s : Survey) (h : Recorded σ) :
    s.ask h.inner = ((s.ask h).1.inner, (s.ask h).2) := by
  rcases hl : s.left with _ | ⟨v, vs⟩ <;> simp [ask, hl, Catalogue.dependencies]

section Locks

variable [Locking σ] (w : World (Recorded σ))

lemma LockPass.step_bare (p : LockPass) (id : SessionId) (h : Recorded σ) :
    p.step id h.inner = ((p.step id h).1.inner, (p.step id h).2) := by
  cases p with
  | asking t left taken =>
    rcases hh : Locking.held h.inner id t with ⟨_ | _, inner⟩ <;> simp [step, Locking.held, hh]
  | attempting t left taken =>
    rcases hh : Locking.attempt h.inner id t with ⟨_ | _, inner⟩ <;>
      simp [step, Locking.attempt, hh]
  | undoing | took | refusedAt => rfl

lemma Admission.advance_bare (a : Admission) :
    a.advance w.bare = ((a.advance w).1.bare, (a.advance w).2) := by
  have hpass (p : LockPass) := p.step_bare a.key.session w.host
  rcases hp : a.phase with c | p | _ | ⟨t, ts⟩
  · have hc := c.advance_bare w
    rcases hw : c.advance w with ⟨w', c' | c' | (r | n)⟩ <;> rw [hw] at hc <;>
      simp [advance, hp, hw, hc]
  · cases p with
    | asking | attempting | undoing => simp [advance, hp, hpass, World.bare]
    | took tables =>
      rcases hm : w.service.markRunning a.key with ⟨_ | _, service⟩ <;>
        simp [advance, hp, hm, World.bare]
    | refusedAt t => simp [advance, hp, World.bare]
  · simp [advance, hp]
  · simp [advance, hp]

lemma Finish.advance_bare (c : Finish) :
    c.advance w.bare = ((c.advance w).1.bare, (c.advance w).2) := by
  rcases hp : c.phase with _ | _ | ⟨t, ts⟩
  · rcases hs : w.session? c.session with _ | s
    · simp [advance, hp, hs]
    · by_cases hg : s.guarded = true
      · simp [advance, hp, hs, hg]
      · rcases ha : s.active with _ | ⟨key, locked⟩
        · simp [advance, hp, hs, hg, ha]
        · by_cases hk : key = c.key <;> simp [advance, hp, hs, hg, ha, hk]
  · simp [advance, hp, World.bare]
  · simp [advance, hp]

lemma Abort.advance_bare (c : Abort) :
    c.advance w.bare = ((c.advance w).1.bare, (c.advance w).2) := by
  rcases hp : c.phase with _ | _ | ⟨t, ts⟩
  · rcases hs : w.session? c.session with _ | s
    · simp [advance, hp, hs]
    · by_cases hg : s.guarded = true <;> simp [advance, hp, hs, hg]
  · simp [advance, hp, World.bare]
    rfl
  · simp [advance, hp]

end Locks

variable [Catalogue σ] [Locking σ] (w : World (Recorded σ))

lemma Start.advance_bare (c : Start) :
    c.advance w.bare = ((c.advance w).1.bare, (c.advance w).2) := by
  rcases hp : c.phase with _ | ⟨key, stale, _ | ⟨t, ts⟩⟩ | ⟨key, survey⟩ | ⟨key, a⟩ |
    ⟨key, locked⟩ | ⟨key, locked⟩ | ⟨key, _ | ⟨t, ts⟩⟩
  · rcases hs : w.session? c.session with _ | s
    · simp [advance, hp, hs]
    · by_cases hg : s.guarded = true
      · simp [advance, hp, hs, hg]
      · by_cases he : s.enforces c.query = true
        · simp [advance, hp, hs, hg, he]
          rfl
        · simp [advance, hp, hs, hg, he]
  · simp [advance, hp, World.bare]
  · simp [advance, hp]
  · rcases hl : survey.left with _ | ⟨v, vs⟩
    · rcases hr : w.service.register key c.query.affected c.query.transaction with
        ⟨_ | _, service⟩ <;>
        simp [advance, hp, hl, hr, World.bare]
    · have hs := survey.ask_bare w.host
      simp [advance, hp, hl, hs, World.bare]
  · have ha := a.advance_bare w
    rcases hw : a.advance w with ⟨w', a' | a' | (r | locked)⟩ <;> rw [hw] at ha <;>
      simp [advance, hp, hw, ha]
  · by_cases hg : w.isGuarded c.session = true
    · simp [advance, hp, hg]
    · by_cases hr : w.service.status? key = some .running <;> simp [advance, hp, hg, hr]
  · simp [advance, hp]
  · simp [advance, hp]
  · simp [advance, hp]

lemma Call.advance_bare (c : Call) :
    c.advance w.bare = ((c.advance w).1.bare, (c.advance w).2) := by
  cases c with
  | start c => rw [advance, c.advance_bare, embed_bare]; rfl
  | finish c => rw [advance, c.advance_bare, embed_bare]; rfl
  | abort c => rw [advance, c.advance_bare, embed_bare]; rfl
  | wait c => rw [advance, c.advance_bare, embed_bare]; rfl
  | admission c => rw [advance, c.advance_bare, embed_bare]; rfl

instance : Oblivious Wait := ⟨fun w c => Wait.advance_bare w c⟩

instance : Oblivious Admission := ⟨fun w c => Admission.advance_bare w c⟩

instance : Oblivious Start := ⟨fun w c => Start.advance_bare w c⟩

instance : Oblivious Finish := ⟨fun w c => Finish.advance_bare w c⟩

instance : Oblivious Abort := ⟨fun w c => Abort.advance_bare w c⟩

instance : Oblivious Call := ⟨fun w c => Call.advance_bare w c⟩

instance : Oblivious Survey where
  step_bare w c := by
    have hs := c.ask_bare w.host
    rcases hl : c.left with _ | ⟨v, vs⟩ <;> simp [Stepping.step, hl, hs, World.bare]

end QueryAdmission
