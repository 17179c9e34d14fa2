import QueryAdmission.Ident
import QueryAdmission.Json

/-!
# Identifiers as JSON

An identifier is stored as its number, which has to fit in a 64-bit word. A key is stored as an
object with both its parts; it is also read from a pair. Main statement: what is stored reads back.
-/

namespace QueryAdmission

namespace Ident

variable {kind : Ident.Kind}

/-- The identifier as it is stored. -/
def toJson (a : Ident kind) : Json := .nat a.number

/-- The identifier that is stored in a document. -/
def ofJson? (j : Json) : Option (Ident kind) := (j.natBelow? UInt64.size).map .mk

theorem ofJson?_toJson {a : Ident kind} (h : a.number < UInt64.size) :
    ofJson? a.toJson = some a := by
  rw [ofJson?, toJson, Json.natBelow?_nat h]
  rfl

end Ident

namespace QueryKey

/-- The key as it is stored. -/
def toJson (k : QueryKey) : Json :=
  .obj [("session", k.session.toJson), ("sequence", .nat k.sequence)]

/-- The key with these parts. -/
def ofParts? (session sequence : Json) : Option QueryKey :=
  match Ident.ofJson? session, sequence.natBelow? UInt64.size with
  | some s, some n => some ⟨s, n⟩
  | _, _ => none

/-- The key that is stored in a document: an object that has both parts, whatever else it has, or a
pair. -/
def ofJson? : Json → Option QueryKey
  | .arr [session, sequence] => ofParts? session sequence
  | .obj members =>
    match members.lookup "session", members.lookup "sequence" with
    | some session, some sequence => ofParts? session sequence
    | _, _ => none
  | _ => none

theorem ofJson?_toJson {k : QueryKey} (hs : k.session.number < UInt64.size)
    (hq : k.sequence < UInt64.size) : ofJson? k.toJson = some k := by
  show ofParts? k.session.toJson (.nat k.sequence) = some k
  rw [ofParts?, Ident.ofJson?_toJson hs, Json.natBelow?_nat hq]

end QueryKey

end QueryAdmission
