import QueryAdmission.Json
import QueryAdmission.Status

/-!
# Statuses as JSON

A status is stored as its name; it is also read from an object with that name alone, and nothing
under it. Main statement: a name is read as a status exactly if the status is stored under it.
-/

namespace QueryAdmission

namespace Status

/-- The name under which a status is stored. -/
def name : Status → String
  | waiting => "Waiting"
  | available => "Available"
  | running => "Running"
  | gaveUp => "GaveUp"

/-- The status of that name. -/
def ofName? (s : String) : Option Status := all.find? (·.name = s)

/-- The status as it is stored. -/
def toJson (s : Status) : Json := .str s.name

/-- The status that is stored in a document. -/
def ofJson? : Json → Option Status
  | .str s => ofName? s
  | .obj [(s, .null)] => ofName? s
  | _ => none

theorem ofName?_eq_some {s : String} {status : Status} :
    ofName? s = some status ↔ s = status.name := by
  constructor
  · intro h
    have hs := List.find?_some h
    simpa [eq_comm] using hs
  · rintro rfl
    cases status <;> decide +kernel

theorem ofJson?_toJson (s : Status) : ofJson? s.toJson = some s :=
  ofName?_eq_some.2 rfl

end Status

end QueryAdmission
