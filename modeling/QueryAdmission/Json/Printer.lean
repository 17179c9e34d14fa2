import QueryAdmission.Json

/-!
# Printing JSON

A document is printed on one line, without blanks. In strings the quotation mark, the backslash and
the control characters are escaped, and every other character stands for itself.
-/

namespace QueryAdmission

namespace Json

/-- The hexadecimal digit of a value below 16. -/
def hexDigit (n : Nat) : Char := (Nat.digitChar n)

/-- One character of a string as it is printed. -/
def escape (c : Char) : List Char :=
  if c = '"' then ['\\', '"']
  else if c = '\\' then ['\\', '\\']
  else if c = '\n' then ['\\', 'n']
  else if c = '\r' then ['\\', 'r']
  else if c = '\t' then ['\\', 't']
  else if c.toNat = 8 then ['\\', 'b']
  else if c.toNat = 12 then ['\\', 'f']
  else if c.toNat < 32 then
    ['\\', 'u', '0', '0', hexDigit (c.toNat / 16), hexDigit (c.toNat % 16)]
  else [c]

/-- A string between quotation marks. -/
def quote (s : String) : String := "\"" ++ String.ofList (s.toList.flatMap escape) ++ "\""

mutual

/-- The document as text. -/
def render : Json → String
  | null => "null"
  | bool b => if b then "true" else "false"
  | nat n => n.repr
  | number text => text
  | str s => quote s
  | arr items => "[" ++ ",".intercalate (renderItems items) ++ "]"
  | obj members => "\x7b" ++ ",".intercalate (renderMembers members) ++ "\x7d"

/-- The items of an array, each as text. -/
def renderItems : List Json → List String
  | [] => []
  | item :: items => item.render :: renderItems items

/-- The members of an object, each with its name. -/
def renderMembers : List (String × Json) → List String
  | [] => []
  | (name, value) :: members => (quote name ++ ":" ++ value.render) :: renderMembers members

end

example : (obj [("a", arr [nat 1, null]), ("b", str "x\n")]).render
    = "\x7b\"a\":[1,null],\"b\":\"x\\n\"\x7d" := by decide +kernel

end Json

end QueryAdmission
