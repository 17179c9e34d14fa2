/-!
# JSON values

The documents in which settings and identifiers are stored. A number that is written with digits
alone is kept as the natural number it names; every other number (signed, with a fraction, with an
exponent) keeps its text, because nothing stored here reads it.
-/

namespace QueryAdmission

/-- A JSON document. The members of an object keep the order in which they are written. -/
inductive Json where
  | null
  | bool (b : Bool)
  | nat (n : Nat)
  | number (text : String)
  | str (s : String)
  | arr (items : List Json)
  | obj (members : List (String × Json))
  deriving Inhabited, Repr

namespace Json

/-- The member of that name, where the document is an object that has one. -/
def member? : Json → String → Option Json
  | obj members, name => members.lookup name
  | _, _ => none

/-- The natural number, where the document is one below `bound`. -/
def natBelow? (bound : Nat) : Json → Option Nat
  | nat n => if n < bound then some n else none
  | _ => none

/-- Give a name its value: a member that is already there keeps its place. -/
def setMember (name : String) (value : Json) : List (String × Json) → List (String × Json)
  | [] => [(name, value)]
  | m :: ms => if m.1 = name then (name, value) :: ms else m :: setMember name value ms

theorem lookup_setMember_self (name : String) (value : Json) (ms : List (String × Json)) :
    (setMember name value ms).lookup name = some value := by
  induction ms with
  | nil => simp [setMember]
  | cons m ms ih =>
    by_cases h : m.1 = name
    · rw [setMember, if_pos h, List.lookup_cons_self]
    · have h' : (name == m.1) = false := beq_eq_false_iff_ne.2 fun e => h e.symm
      rw [setMember, if_neg h, List.lookup_cons, h']
      exact ih

theorem natBelow?_nat {bound n : Nat} (h : n < bound) : (nat n).natBelow? bound = some n :=
  if_pos h

theorem natBelow?_eq_some {bound n : Nat} {j : Json} :
    j.natBelow? bound = some n ↔ j = .nat n ∧ n < bound := by
  constructor
  · intro h
    cases j with
    | nat m =>
      by_cases hm : m < bound
      · rw [natBelow?_nat hm] at h
        cases h
        exact ⟨rfl, hm⟩
      · rw [natBelow?, if_neg hm] at h
        cases h
    | _ => cases h
  · rintro ⟨rfl, h⟩
    exact natBelow?_nat h

end Json

end QueryAdmission
