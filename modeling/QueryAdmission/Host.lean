import QueryAdmission.LockTable
import QueryAdmission.ViewIndex

/-!
# The host's side

The scheduler asks its host which tables a view depends on, and it has the host lock tables. Any
state with these operations will do, and an answer may change the state; a host in memory is built
from an index and a lock table. A recorded host keeps a record of every contact beside whatever it
does.
-/

namespace QueryAdmission

/-- A host that knows the tables of views. -/
class Catalogue (σ : Type) where
  /-- The tables that a view depends on. -/
  dependencies : σ → ViewId → List TableId × σ

/-- A host that locks tables for sessions. -/
class Locking (σ : Type) where
  /-- Ask whether the session holds the table. -/
  held : σ → SessionId → TableId → Bool × σ
  /-- Take the table for the session without waiting; whether that succeeded. -/
  attempt : σ → SessionId → TableId → Bool × σ
  /-- Give a table of the session back. -/
  unlock : σ → SessionId → TableId → σ
  /-- The tables that the session holds. A host need not tell. -/
  locksHeld : σ → SessionId → List TableId × σ := fun h _ => ([], h)

instance : Catalogue ViewIndex where
  dependencies x v := (x.dependencies v, x)

instance : Locking LockTable where
  held l s t := (l.held s t, l)
  attempt l s t := l.attempt s t
  unlock l s t := l.unlock s t
  locksHeld l s := (l.locksHeld s, l)

/-- A host that does not tell which tables are held, and is otherwise the one inside. -/
structure Reticent (σ : Type) where
  inner : σ

instance {σ : Type} [Locking σ] : Locking (Reticent σ) where
  held h s t := let (b, inner) := Locking.held h.inner s t; (b, ⟨inner⟩)
  attempt h s t := let (b, inner) := Locking.attempt h.inner s t; (b, ⟨inner⟩)
  unlock h s t := ⟨Locking.unlock h.inner s t⟩

theorem locksHeld_reticent {σ : Type} [Locking σ] (h : Reticent σ) (s : SessionId) :
    Locking.locksHeld h s = ([], h) := rfl

/-- A host in memory. -/
structure MemoryHost where
  index : ViewIndex
  locks : LockTable
  deriving DecidableEq, Repr

instance : Catalogue MemoryHost where
  dependencies h v := (h.index.dependencies v, h)

instance : Locking MemoryHost where
  held h s t := (h.locks.held s t, h)
  attempt h s t := let (b, locks) := h.locks.attempt s t; (b, { h with locks })
  unlock h s t := { h with locks := h.locks.unlock s t }
  locksHeld h s := (h.locks.locksHeld s, h)

/-- One contact with the host, with its answer where the host decides. -/
inductive Contact where
  | dependencies (view : ViewId)
  | held (session : SessionId) (table : TableId) (answer : Bool)
  | attempt (session : SessionId) (table : TableId) (answer : Bool)
  | unlock (session : SessionId) (table : TableId)
  deriving DecidableEq, Repr

/-- A host, and the contacts that were made with it so far. -/
structure Recorded (σ : Type) where
  inner : σ
  contacts : List Contact
  deriving DecidableEq, Repr

/-- A host with which no contact was made. -/
def Recorded.fresh {σ : Type} (h : σ) : Recorded σ := ⟨h, []⟩

instance {σ : Type} [Catalogue σ] : Catalogue (Recorded σ) where
  dependencies h v :=
    let (tables, inner) := Catalogue.dependencies h.inner v
    (tables, ⟨inner, h.contacts ++ [.dependencies v]⟩)

instance {σ : Type} [Locking σ] : Locking (Recorded σ) where
  held h s t :=
    let (answer, inner) := Locking.held h.inner s t
    (answer, ⟨inner, h.contacts ++ [.held s t answer]⟩)
  attempt h s t :=
    let (answer, inner) := Locking.attempt h.inner s t
    (answer, ⟨inner, h.contacts ++ [.attempt s t answer]⟩)
  unlock h s t := ⟨Locking.unlock h.inner s t, h.contacts ++ [.unlock s t]⟩
  locksHeld h s :=
    let (tables, inner) := Locking.locksHeld h.inner s
    (tables, ⟨inner, h.contacts⟩)

end QueryAdmission
