import PatchCoverage.Number.Decimal
import PatchCoverage.Text.Blank
import PatchCoverage.Text.Digit

namespace PatchCoverage

/-!
# Numbers written in text

Blanks around a number are ignored, digits of every script count as decimal
digits, and one underscore may stand between two digits.  An integer is a sign
and digits; other numbers may have a point, a decimal exponent, or be one of
the words for infinity and for no number.

An integer text has at most 4300 digits: the work of reading or writing one
grows with the square of its length.
-/

/-- Why a text is not an integer. -/
inductive IntegerFault where
  /-- It is not written as an integer. -/
  | notInteger
  /-- It has more digits than allowed. -/
  | tooManyDigits (count : Nat)
  deriving DecidableEq, Repr

/-- A digit of another script as the plain digit of the same value. -/
def plainDigit (c : Char) : Char :=
  match digitValue? c with
  | some value => Char.ofNat (48 + value)
  | none => c

/-- The characters of a number, without blanks around it and with plain
digits. -/
def numberCharacters (text : String) : List Char :=
  (trimBoth isNumberBlank text.toList).map plainDigit

/-- A leading sign, and what follows it. -/
def takeSign : List Char → Bool × List Char
  | '-' :: rest => (true, rest)
  | '+' :: rest => (false, rest)
  | characters => (false, characters)

/-- Takes out underscores that stand between two digits; `none` when one
stands elsewhere. `afterDigit` tells whether a digit came before. -/
def dropUnderscores? (afterDigit : Bool) : List Char → Option (List Char)
  | [] => some []
  | '_' :: next :: rest =>
    if afterDigit && next.isDigit then (dropUnderscores? true rest).map (next :: ·) else none
  | '_' :: [] => none
  | c :: rest => (dropUnderscores? c.isDigit rest).map (c :: ·)

/-- The number that digits stand for in base ten. -/
def digitsValue (digits : List Char) : Nat :=
  digits.foldl (fun value c => value * 10 + (c.toNat - 48)) 0

/-- Reads an integer. -/
def readInteger (text : String) : Except IntegerFault Int :=
  let (negative, body) := takeSign (numberCharacters text)
  match dropUnderscores? false body with
  | none => .error .notInteger
  | some digits =>
    if digits.isEmpty || !digits.all Char.isDigit then .error .notInteger
    else if digitLimit < digits.length then .error (.tooManyDigits digits.length)
    else
      let value : Int := digitsValue digits
      .ok (if negative then -value else value)

/-- A decimal as its digits and the power of ten of the last one. -/
structure DecimalParts where
  /-- The digits before and after the point. -/
  digits : List Char
  /-- The power of ten of the last digit. -/
  exponent : Int

/-- The number of decimal parts. Far beyond either end of the range the power
of ten is not worked out. -/
def DecimalParts.toBinary64 (parts : DecimalParts) (negative : Bool) : Binary64 :=
  let digits := parts.digits.dropWhile (· == '0')
  let magnitude := (digits.length : Int) + parts.exponent
  if digits.isEmpty || magnitude < -330 then .ofDecimal negative 0 0
  else if 310 < magnitude then .infinity negative
  else .ofDecimal negative (digitsValue digits) parts.exponent

/-- Reads a decimal exponent, `e` with an optional sign and digits, or
nothing. -/
def readExponent? : List Char → Option Int
  | [] => some 0
  | 'e' :: rest | 'E' :: rest =>
    let (negative, digits) := takeSign rest
    if digits.isEmpty || !digits.all Char.isDigit then none
    else some (if negative then -(digitsValue digits : Int) else digitsValue digits)
  | _ => none

/-- Reads digits with an optional point and an optional exponent. -/
def readDecimal? (characters : List Char) : Option DecimalParts :=
  let whole := characters.takeWhile Char.isDigit
  let afterWhole := characters.dropWhile Char.isDigit
  let (places, rest) :=
    match afterWhole with
    | '.' :: rest => (rest.takeWhile Char.isDigit, rest.dropWhile Char.isDigit)
    | _ => ([], afterWhole)
  if whole.isEmpty && places.isEmpty then none
  else
    (readExponent? rest).map fun exponent =>
      ⟨whole ++ places, exponent - (places.length : Int)⟩

/-- Reads a number. -/
def readNumber? (text : String) : Option Binary64 := do
  let characters ← dropUnderscores? false (numberCharacters text)
  let (negative, body) := takeSign characters
  let word := String.ofList (body.map Char.toLower)
  if word == "inf" || word == "infinity" then
    some (.infinity negative)
  else if word == "nan" then
    some .nan
  else
    (readDecimal? body).map fun parts => parts.toBinary64 negative

end PatchCoverage
