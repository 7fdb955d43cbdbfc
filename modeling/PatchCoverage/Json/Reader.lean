import PatchCoverage.Json.Basic
import PatchCoverage.Number.Literal

namespace PatchCoverage

/-!
# Reading JSON

A reader of documents that returns what follows the document as well.  Two
escaped units that make up a pair are read as one character; a unit of a pair
that stands alone is read as the replacement character, since no text can hold
it.
-/

namespace Json

/-- The value of a hexadecimal digit. -/
def hexDigit? (c : Char) : Option Nat :=
  if c.isDigit then some (c.toNat - 48)
  else if 'a' ≤ c ∧ c ≤ 'f' then some (c.toNat - 87)
  else if 'A' ≤ c ∧ c ≤ 'F' then some (c.toNat - 55)
  else none

/-- The value of four hexadecimal digits. -/
def hexUnit? (a b c d : Char) : Option Nat := do
  some ((((← hexDigit? a) * 16 + (← hexDigit? b)) * 16 + (← hexDigit? c)) * 16 + (← hexDigit? d))

/-- The character that a letter stands for after a backslash. -/
def shortEscape? : Char → Option Char
  | '"' => some '"'
  | '\\' => some '\\'
  | '/' => some '/'
  | 'b' => some '\x08'
  | 'f' => some '\x0c'
  | 'n' => some '\n'
  | 'r' => some '\r'
  | 't' => some '\t'
  | _ => none

/-- Half of a pair of units. -/
def isHighUnit (unit : Nat) : Bool :=
  0xD800 ≤ unit && unit < 0xDC00

/-- The character of a unit on its own. -/
def unitCharacter (unit : Nat) : Char :=
  if 0xD800 ≤ unit && unit < 0xE000 then '\uFFFD' else Char.ofNat unit

/-- Appends a unit to the characters read, joining it to the first half of a
pair that waits for it. -/
def pushUnit (pending : Option Nat) (unit : Nat) (characters : List Char) :
    Option Nat × List Char :=
  match pending with
  | none =>
    if isHighUnit unit then (some unit, characters)
    else (none, unitCharacter unit :: characters)
  | some high =>
    if 0xDC00 ≤ unit && unit < 0xE000 then
      (none, Char.ofNat (0x10000 + (high - 0xD800) * 1024 + (unit - 0xDC00)) :: characters)
    else if isHighUnit unit then
      (some unit, '\uFFFD' :: characters)
    else
      (none, unitCharacter unit :: '\uFFFD' :: characters)

/-- The characters read once no further unit follows. -/
def settle (pending : Option Nat) (characters : List Char) : List Char :=
  match pending with
  | none => characters
  | some _ => '\uFFFD' :: characters

/-- Reads a text after its opening quote; `characters` holds what was read,
last first, and `pending` a first half of a pair. -/
def readString (pending : Option Nat) (characters : List Char) :
    List Char → Option (String × List Char)
  | [] => none
  | '"' :: rest => some (String.ofList (settle pending characters).reverse, rest)
  | '\\' :: 'u' :: a :: b :: c :: d :: rest =>
    match hexUnit? a b c d with
    | none => none
    | some unit =>
      let (pending, characters) := pushUnit pending unit characters
      readString pending characters rest
  | '\\' :: letter :: rest =>
    match shortEscape? letter with
    | none => none
    | some c => readString none (c :: settle pending characters) rest
  | c :: rest =>
    if c.val < 32 || c = '\\' then none
    else readString none (c :: settle pending characters) rest

/-- White space between the parts of a document. -/
def isLayout (c : Char) : Bool :=
  c == ' ' || c == '\t' || c == '\n' || c == '\r'

/-- Drops white space. -/
def skipLayout (characters : List Char) : List Char :=
  characters.dropWhile isLayout

/-- A character that a number may hold. -/
def isNumberCharacter (c : Char) : Bool :=
  c.isDigit || c == '-' || c == '+' || c == '.' || c == 'e' || c == 'E'

/-- Whether digits are those of a whole part: a zero leads only alone. -/
def isWholePart : List Char → Bool
  | [] => false
  | ['0'] => true
  | '0' :: _ => false
  | digits => digits.all Char.isDigit

/-- The number of a numeral. -/
def numeral? (numeral : List Char) : Option Json :=
  let (negative, magnitude) :=
    match numeral with
    | '-' :: rest => (true, rest)
    | _ => (false, numeral)
  let whole := magnitude.takeWhile Char.isDigit
  let rest := magnitude.dropWhile Char.isDigit
  if !isWholePart whole then none
  else
    match rest with
    | [] =>
      let value : Int := digitsValue whole
      some (integer (if negative then -value else value))
    | '.' :: places =>
      if places.takeWhile Char.isDigit = [] then none
      else (readDecimal? magnitude).map fun parts => number (parts.toBinary64 negative)
    | _ => (readDecimal? magnitude).map fun parts => number (parts.toBinary64 negative)

mutual

/-- Reads a document and returns what follows it. -/
def readValue : Nat → List Char → Option (Json × List Char)
  | 0, _ => none
  | fuel + 1, characters =>
    match skipLayout characters with
    | 'n' :: 'u' :: 'l' :: 'l' :: rest => some (null, rest)
    | 't' :: 'r' :: 'u' :: 'e' :: rest => some (bool true, rest)
    | 'f' :: 'a' :: 'l' :: 's' :: 'e' :: rest => some (bool false, rest)
    | '"' :: rest => (readString none [] rest).map fun (text, rest) => (string text, rest)
    | '[' :: rest =>
      match skipLayout rest with
      | ']' :: rest => some (array [], rest)
      | rest => readItems fuel [] rest
    | '{' :: rest =>
      match skipLayout rest with
      | '}' :: rest => some (object [], rest)
      | rest => readFields fuel [] rest
    | characters =>
      (numeral? (characters.takeWhile isNumberCharacter)).map fun value =>
        (value, characters.dropWhile isNumberCharacter)

/-- Reads the items of a list, of which at least one is to come. -/
def readItems : Nat → List Json → List Char → Option (Json × List Char)
  | 0, _, _ => none
  | fuel + 1, items, characters =>
    match readValue fuel characters with
    | none => none
    | some (item, rest) =>
      match skipLayout rest with
      | ',' :: rest => readItems fuel (item :: items) rest
      | ']' :: rest => some (array (item :: items).reverse, rest)
      | _ => none

/-- Reads the fields of an object, of which at least one is to come. -/
def readFields : Nat → List (String × Json) → List Char → Option (Json × List Char)
  | 0, _, _ => none
  | fuel + 1, fields, characters =>
    match skipLayout characters with
    | '"' :: rest =>
      match readString none [] rest with
      | none => none
      | some (name, rest) =>
        match skipLayout rest with
        | ':' :: rest =>
          match readValue fuel rest with
          | none => none
          | some (value, rest) =>
            match skipLayout rest with
            | ',' :: rest => readFields fuel ((name, value) :: fields) rest
            | '}' :: rest => some (object ((name, value) :: fields).reverse, rest)
            | _ => none
        | _ => none
    | _ => none

end

/-- Reads a text that holds one document and nothing else. The length of the
text bounds its nesting. -/
def read? (text : String) : Option Json :=
  let characters := text.toList
  match readValue (2 * characters.length + 2) characters with
  | some (document, rest) => if (skipLayout rest).isEmpty then some document else none
  | none => none

end Json

end PatchCoverage
