import QueryAdmission.Ident.Json
import QueryAdmission.Settings

/-!
# Settings as JSON

Settings are stored as an object with a member for each of them. Reading lays a document over the
standard settings: a member that is absent leaves its setting as it is, a member that is present
has to be readable, and members of other names are passed over. A document may also be an array
with the first few settings in order. Intervals are stored strictly: both parts, and nothing else.
-/

namespace QueryAdmission

namespace Interval

/-- The interval as it is stored. -/
def toJson (d : Interval) : Json := .obj [("secs", .nat d.secs.toNat), ("nanos", .nat d.nanos)]

/-- The interval with these parts: seconds in a 64-bit word, nanoseconds in a 32-bit word. -/
def ofJsonParts? (secs nanos : Json) : Option Interval :=
  match secs.natBelow? UInt64.size, nanos.natBelow? UInt32.size with
  | some s, some n => ofParts? s n
  | _, _ => none

/-- The interval that is stored in a document: an object with both parts and no other member, or a
pair. -/
def ofJson? : Json → Option Interval
  | .arr [secs, nanos] => ofJsonParts? secs nanos
  | .obj members =>
    if members.all (fun m => m.1 = "secs" || m.1 = "nanos") then
      match members.lookup "secs", members.lookup "nanos" with
      | some secs, some nanos => ofJsonParts? secs nanos
      | _, _ => none
    else none
  | _ => none

theorem ofJson?_toJson (d : Interval) : ofJson? d.toJson = some d := by
  have hn : d.nanos < UInt32.size := Nat.lt_trans d.nanos_lt (by decide)
  have hs : d.secs.toNat < UInt64.size := d.secs.toNat_lt_size
  show ofJsonParts? (.nat d.secs.toNat) (.nat d.nanos) = some d
  rw [ofJsonParts?, Json.natBelow?_nat hs, Json.natBelow?_nat hn]
  exact ofParts?_parts d

end Interval

namespace Settings

/-- A bound that is stored in a document. -/
def bound? (j : Json) : Option UInt64 := (j.natBelow? UInt64.size).map .ofNat

theorem bound?_nat (n : UInt64) : bound? (.nat n.toNat) = some n := by
  rw [bound?, Json.natBelow?_nat n.toNat_lt_size]
  exact congrArg some (UInt64.ofNat_toNat)

/-- The settings, named as they are stored. -/
inductive Field where
  | maxConcurrent | maxAffected | maxQueries | pollInterval
  deriving DecidableEq, Repr

namespace Field

/-- The settings in the order in which they are stored. -/
def all : List Field := [maxConcurrent, maxAffected, maxQueries, pollInterval]

/-- The name of the member that holds the setting. -/
def name : Field → String
  | maxConcurrent => "max_concurrent_queries"
  | maxAffected => "max_affected_tables"
  | maxQueries => "max_queries"
  | pollInterval => "poll_interval"

/-- The setting's value as it is stored. -/
def toJson : Field → Settings → Json
  | maxConcurrent, s => .nat s.maxConcurrent.toNat
  | maxAffected, s => .nat s.maxAffected.toNat
  | maxQueries, s => .nat s.maxQueries.toNat
  | pollInterval, s => s.pollInterval.toJson

/-- Replace the setting by the value that is stored in a document. -/
def set? : Field → Settings → Json → Option Settings
  | maxConcurrent, s, j => (bound? j).map fun n => { s with maxConcurrent := n }
  | maxAffected, s, j => (bound? j).map fun n => { s with maxAffected := n }
  | maxQueries, s, j => (bound? j).map fun n => { s with maxQueries := n }
  | pollInterval, s, j => (Interval.ofJson? j).map fun d => { s with pollInterval := d }

end Field

/-- The settings as they are stored. -/
def toJson (s : Settings) : Json := .obj (Field.all.map fun f => (f.name, f.toJson s))

/-- Lay the members of an object over the settings, for each of the fields. -/
def overlayMembers? (members : List (String × Json)) : List Field → Settings → Option Settings
  | [], s => some s
  | f :: fs, s =>
    match members.lookup f.name with
    | none => overlayMembers? members fs s
    | some j => match f.set? s j with
      | some s' => overlayMembers? members fs s'
      | none => none

/-- Lay the items of an array over the settings, one for each of the fields; there may be fewer
items than fields, but not more. -/
def overlayItems? : List Json → List Field → Settings → Option Settings
  | [], _, s => some s
  | _ :: _, [], _ => none
  | j :: js, f :: fs, s => match f.set? s j with
    | some s' => overlayItems? js fs s'
    | none => none

/-- The settings that are stored in a document. They are not checked. -/
def ofJson? : Json → Option Settings
  | .obj members => overlayMembers? members Field.all standard
  | .arr items => overlayItems? items Field.all standard
  | _ => none

theorem ofJson?_toJson (s : Settings) : ofJson? s.toJson = some s := by
  simp [ofJson?, toJson, Field.all, overlayMembers?, Field.name, List.lookup_cons, Field.set?,
    Field.toJson, bound?_nat, Interval.ofJson?_toJson]

end Settings

end QueryAdmission
