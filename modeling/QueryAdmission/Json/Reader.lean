import QueryAdmission.Json

/-!
# Reading JSON

A text is cut into tokens, and the tokens are put together on a stack of open arrays and objects.
Both passes look at each character or token once, so reading ends on every text; a text that is not
one JSON document reads as `none`. Of members with one name, the last one counts.
-/

namespace QueryAdmission

namespace Json

/-! ### Tokens -/

/-- The smallest parts of a JSON text. -/
inductive Token where
  | openArr | closeArr | openObj | closeObj | comma | colon
  | str (s : String)
  | word (letters : List Char)
  deriving DecidableEq, Repr

/-- What the scan of a text is in the middle of. Characters that have been read stand in reverse. -/
inductive Scan where
  | blank
  | word (letters : List Char)
  | quoted (units : List Nat)
  | escaped (units : List Nat)
  | unicode (units : List Nat) (missing value : Nat)
  deriving Repr

/-- The token that one character makes on its own. -/
def Token.ofPunctuation? : Char → Option Token
  | '[' => some .openArr
  | ']' => some .closeArr
  | '\x7b' => some .openObj
  | '\x7d' => some .closeObj
  | ',' => some .comma
  | ':' => some .colon
  | _ => none

/-- Blank, tab and the two line ends separate tokens. -/
def isBlank (c : Char) : Bool := c = ' ' || c = '\t' || c = '\n' || c = '\r'

/-- Words are runs of letters, digits, signs and points: the three literals, and numbers. -/
def isWordChar (c : Char) : Bool := c.isAlphanum || c = '-' || c = '+' || c = '.'

/-- The value of a hexadecimal digit. -/
def hexValue? (c : Char) : Option Nat :=
  if '0' ≤ c && c ≤ '9' then some (c.toNat - '0'.toNat)
  else if 'a' ≤ c && c ≤ 'f' then some (c.toNat - 'a'.toNat + 10)
  else if 'A' ≤ c && c ≤ 'F' then some (c.toNat - 'A'.toNat + 10)
  else none

/-- What a letter means after a backslash, the four-digit escape apart. -/
def unescape? : Char → Option Char
  | '"' => some '"'
  | '\\' => some '\\'
  | '/' => some '/'
  | 'b' => some '\x08'
  | 'f' => some '\x0c'
  | 'n' => some '\n'
  | 'r' => some '\r'
  | 't' => some '\t'
  | _ => none

/-- The characters that the units of a string stand for: a high surrogate and the low one after it
make one character, and a surrogate alone makes none. -/
def charsOfUnits : List Nat → Option (List Char)
  | [] => some []
  | [u] => if 0xd800 ≤ u && u < 0xe000 then none else some [Char.ofNat u]
  | u :: v :: us =>
    if 0xd800 ≤ u && u < 0xdc00 then
      if 0xdc00 ≤ v && v < 0xe000 then
        (charsOfUnits us).map (Char.ofNat (0x10000 + (u - 0xd800) * 0x400 + (v - 0xdc00)) :: ·)
      else none
    else if 0xdc00 ≤ u && u < 0xe000 then none
    else (charsOfUnits (v :: us)).map (Char.ofNat u :: ·)

/-- The tokens of a text. -/
def scan : Scan → List Char → Option (List Token)
  | .blank, [] => some []
  | .word letters, [] => some [.word letters.reverse]
  | .quoted _, [] | .escaped _, [] | .unicode _ _ _, [] => none
  | .blank, c :: cs =>
    if isBlank c then scan .blank cs
    else if c = '"' then scan (.quoted []) cs
    else if isWordChar c then scan (.word [c]) cs
    else match Token.ofPunctuation? c with
      | some t => (scan .blank cs).map (t :: ·)
      | none => none
  | .word letters, c :: cs =>
    if isWordChar c then scan (.word (c :: letters)) cs
    else if isBlank c then (scan .blank cs).map (.word letters.reverse :: ·)
    else match Token.ofPunctuation? c with
      | some t => (scan .blank cs).map (.word letters.reverse :: t :: ·)
      | none => none
  | .quoted units, c :: cs =>
    if c = '"' then
      match charsOfUnits units.reverse with
      | some s => (scan .blank cs).map (.str (String.ofList s) :: ·)
      | none => none
    else if c = '\\' then scan (.escaped units) cs
    else if c.toNat < 32 then none
    else scan (.quoted (c.toNat :: units)) cs
  | .escaped units, c :: cs =>
    if c = 'u' then scan (.unicode units 4 0) cs
    else match unescape? c with
      | some d => scan (.quoted (d.toNat :: units)) cs
      | none => none
  | .unicode units missing value, c :: cs =>
    match hexValue? c with
    | none => none
    | some d =>
      if missing ≤ 1 then scan (.quoted ((value * 16 + d) :: units)) cs
      else scan (.unicode units (missing - 1) (value * 16 + d)) cs

/-! ### Numbers -/

/-- The number that a run of digits names. -/
def natOfDigits (ds : List Char) : Nat := ds.foldl (fun n d => n * 10 + (d.toNat - '0'.toNat)) 0

/-- Digits that write a natural number: no zero leads unless it stands alone. -/
def isNatural : List Char → Bool
  | [] => false
  | ['0'] => true
  | d :: ds => d ≠ '0' && d.isDigit && ds.all Char.isDigit

/-- Either nothing, or an exponent: a mark, at most one sign, digits. -/
def isExponent : List Char → Bool
  | [] => true
  | e :: '+' :: ds | e :: '-' :: ds => (e = 'e' || e = 'E') && !ds.isEmpty && ds.all Char.isDigit
  | e :: ds => (e = 'e' || e = 'E') && !ds.isEmpty && ds.all Char.isDigit

/-- Either nothing or a fraction, and then at most an exponent. -/
def isFractionAndExponent : List Char → Bool
  | '.' :: cs => !(cs.takeWhile Char.isDigit).isEmpty && isExponent (cs.dropWhile Char.isDigit)
  | cs => isExponent cs

/-- The form of a number without its sign. -/
def isUnsigned (cs : List Char) : Bool :=
  isNatural (cs.takeWhile Char.isDigit) && isFractionAndExponent (cs.dropWhile Char.isDigit)

/-- The form of a number: at most one minus sign, and a number without a sign. -/
def isNumber : List Char → Bool
  | '-' :: cs => isUnsigned cs
  | cs => isUnsigned cs

/-- The document that a single word is. -/
def ofWord? (letters : List Char) : Option Json :=
  if letters = ['n', 'u', 'l', 'l'] then some null
  else if letters = ['t', 'r', 'u', 'e'] then some (bool true)
  else if letters = ['f', 'a', 'l', 's', 'e'] then some (bool false)
  else if isNatural letters then some (nat (natOfDigits letters))
  else if isNumber letters then some (number (String.ofList letters))
  else none

/-! ### Documents -/

/-- An array or an object that is still open. The items of an array stand in reverse; an object
knows the name of the member that is being read. -/
inductive Frame where
  | arr (items : List Json)
  | obj (members : List (String × Json)) (name : String)

/-- What may come next. -/
inductive Awaited where
  | value | firstItem | firstName | name | colon | separator
  deriving DecidableEq

/-- A document in the middle of being read. -/
inductive Reading where
  | going (frames : List Frame) (awaited : Awaited)
  | ended (document : Json)

/-- A value has been read: it ends the document, or goes to where it was awaited. -/
def Reading.put (value : Json) : List Frame → Reading
  | [] => .ended value
  | .arr items :: frames => .going (.arr (value :: items) :: frames) .separator
  | .obj members name :: frames =>
    .going (.obj (setMember name value members) name :: frames) .separator

/-- Take one more token. -/
def Reading.step : Reading → Token → Option Reading
  | .ended _, _ => none
  | .going (.arr items :: frames) .firstItem, .closeArr => some (.put (.arr items) frames)
  | .going frames .value, t | .going frames .firstItem, t =>
    match t with
    | .str s => some (.put (.str s) frames)
    | .word letters => (ofWord? letters).map (.put · frames)
    | .openArr => some (.going (.arr [] :: frames) .firstItem)
    | .openObj => some (.going (.obj [] "" :: frames) .firstName)
    | _ => none
  | .going (.obj members _ :: frames) .firstName, .str s
  | .going (.obj members _ :: frames) .name, .str s =>
    some (.going (.obj members s :: frames) .colon)
  | .going (.obj members _ :: frames) .firstName, .closeObj => some (.put (.obj members) frames)
  | .going frames .colon, .colon => some (.going frames .value)
  | .going (.arr items :: frames) .separator, .comma => some (.going (.arr items :: frames) .value)
  | .going (.obj members name :: frames) .separator, .comma =>
    some (.going (.obj members name :: frames) .name)
  | .going (.arr items :: frames) .separator, .closeArr => some (.put (.arr items.reverse) frames)
  | .going (.obj members _ :: frames) .separator, .closeObj => some (.put (.obj members) frames)
  | .going _ _, _ => none

/-- Take the tokens one after the other. -/
def Reading.run : Reading → List Token → Option Json
  | .ended document, [] => some document
  | .going _ _, [] => none
  | r, t :: ts => match r.step t with
    | some r' => r'.run ts
    | none => none

/-- The document that a text is. -/
def read (text : String) : Option Json :=
  match scan .blank text.toList with
  | some tokens => (Reading.going [] .value).run tokens
  | none => none

end Json

end QueryAdmission
