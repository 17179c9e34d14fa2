/-!
# Identifiers

Sessions, views, tables and transactions are numbered, each kind on its own. An identifier carries
its kind in its type, so that a table is never taken for a view; all four kinds share their
operations. A query is named by its session and by its place among the queries which that session
has started.
-/

namespace QueryAdmission

/-- What an identifier names. -/
inductive Ident.Kind where
  | session | view | table | transaction
  deriving DecidableEq, Repr

/-- The number of one thing of the given kind. -/
structure Ident (kind : Ident.Kind) where
  number : Nat
  deriving DecidableEq, Repr

/-- A session of the host. -/
abbrev SessionId := Ident .session

/-- A materialized view that queries keep up to date. -/
abbrev ViewId := Ident .view

/-- A table of the host. -/
abbrev TableId := Ident .table

/-- A transaction of the host. -/
abbrev TransactionId := Ident .transaction

namespace Ident

variable {kind : Ident.Kind}

instance (n : Nat) : OfNat (Ident kind) n := ⟨⟨n⟩⟩

/-- Identifiers of one kind are ordered by number. -/
instance : Ord (Ident kind) := ⟨fun a b => compare a.number b.number⟩

/-- The identifier in decimal digits. -/
def text (a : Ident kind) : String := a.number.repr

end Ident

/-- The name of a query: its session, and its number among the queries which that session has
started. -/
structure QueryKey where
  session : SessionId
  sequence : Nat
  deriving DecidableEq, Repr

namespace QueryKey

/-- Keys are ordered by session, and within a session by sequence. -/
instance : Ord QueryKey :=
  ⟨fun a b => (compare a.session b.session).then (compare a.sequence b.sequence)⟩

/-- The key as messages quote it: session and sequence with a colon between them. -/
def text (k : QueryKey) : String := k.session.text ++ ":" ++ k.sequence.repr

example : (QueryKey.mk 7 42).text = "7:42" := by decide +kernel

end QueryKey

end QueryAdmission
