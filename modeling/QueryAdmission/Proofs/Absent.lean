import QueryAdmission.Proofs.Drawn
import QueryAdmission.Proofs.Scopes
import QueryAdmission.Proofs.Standing

/-!
# Keys without a record

A key comes to have a record only when it is registered: by the start of its query
(`Call.status?_eq_none`), or by hand (`Op.status?_eq_none`). All else leaves a key without a record
as it is, whatever call it belongs to and in whatever order.
-/

namespace QueryAdmission

variable {k : QueryKey} {w : World MemoryHost} (hn : w.service.status? k = none)

include hn

lemma Call.status?_eq_none (c : Call) (hc : ∀ a, c = .start a → a.queryKey? ≠ some k) :
    (c.advance w).1.service.status? k = none := by
  cases c with
  | start c =>
    rw [advance, fst_embed]
    rcases c.exists_move w with h | ⟨s, s', -, h⟩
    · rw [h]
      exact hn
    · exact h.status?_eq_none hn (hc c rfl)
  | finish c | abort c | wait c | admission c =>
    rw [advance, fst_embed]
    exact (c.noneJoins w).absent k hn

lemma Op.status?_eq_none {op : Op}
    (ho : ∀ affected transaction, op ≠ .register k affected transaction) :
    (op.effect w).service.status? k = none := by
  cases op with
  | register key affected transaction =>
    refine Service.status?_register_eq_none affected transaction ?_ hn
    rintro rfl
    exact ho affected transaction rfl
  | complete key => exact Service.status?_complete_eq_none key hn
  | pass => exact Service.status?_pass_eq_none hn
  | giveUp key => exact Service.status?_giveUp_eq_none key hn
  | markRunning key => exact Service.status?_markRunning_eq_none key hn
  | sweep id => exact Service.status?_sweep_eq_none id hn
  | raise signal => cases signal <;> exact hn
  | openSession | closeSession | shutDown | lock | unlock | view | unview | call | spawn | survey
  | dependencies | status | held | owner | locksHeld => exact hn

end QueryAdmission
