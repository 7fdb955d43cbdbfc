import PatchCoverage.Number.Binary64

namespace PatchCoverage

/-!
# Decimal texts of numbers

Three writings of a number in base ten:

* `Binary64.shortestText`: the fewest digits that read back to the number,
  and of those the digits nearest to it;
* `Binary64.fixedText`: exactly two places;
* `Binary64.roundedToHundredths`: the number nearest to the two-place value.

The two-place writings round the exact value once, a half going to the even
neighbour.
-/

/-- The digits of a natural number, `0` for zero. -/
def decimalDigits (value : Nat) : List Char :=
  Nat.toDigits 10 value

/-- The decimal text of an integer. -/
def integerText (value : Int) : String :=
  String.ofList
    (if value < 0 then '-' :: decimalDigits value.natAbs else decimalDigits value.natAbs)

/-- The greatest number of digits of an integer in text. -/
def digitLimit : Nat := 4300

/-- Whether an integer has at most that many digits. -/
def integerFits (value : Int) : Bool :=
  value.natAbs < Nat.pow 10 digitLimit

namespace Binary64

/-- The greatest `exponent` with `10 ^ exponent` units at most `quanta`, for
a positive count of quanta. -/
def decimalExponent (quanta : Nat) : Int :=
  if quantaPerUnit ≤ quanta then
    ((decimalDigits (quanta / quantaPerUnit)).length : Int) - 1
  else
    -((decimalDigits ((quantaPerUnit + quanta - 1) / quanta - 1)).length : Int)

/-- `mantissa * 10 ^ exponent` units as an exact fraction of a quantum. -/
def decimalFraction (mantissa : Nat) (exponent : Int) : Nat × Nat :=
  match exponent with
  | .ofNat power => (mantissa * Nat.pow 10 power * quantaPerUnit, 1)
  | .negSucc power => (mantissa * quantaPerUnit, Nat.pow 10 (power + 1))

/-- Whether `mantissa * 10 ^ exponent` rounds to a count of quanta. -/
def readsBack (quanta mantissa : Nat) (exponent : Int) : Bool :=
  let fraction := decimalFraction mantissa exponent
  roundToBits fraction.1 fraction.2 == quanta

/-- The neighbours of `quanta` among the multiples of `10 ^ exponent` units:
the lower one and whether the upper one is nearer (a half goes to the even
mantissa). -/
def decimalNeighbours (quanta : Nat) (exponent : Int) : Nat × Bool :=
  let scaled : Nat × Nat :=
    match exponent with
    | .ofNat power => (quanta, Nat.pow 10 power * quantaPerUnit)
    | .negSucc power => (quanta * Nat.pow 10 (power + 1), quantaPerUnit)
  let lower := scaled.1 / scaled.2
  (lower, roundHalfEven scaled.1 scaled.2 != lower)

/-- The mantissa of the given exponent that reads back to `quanta`, the nearer
one when both neighbours do. -/
def mantissaAt? (quanta : Nat) (exponent : Int) : Option Nat :=
  let neighbours := decimalNeighbours quanta exponent
  let lower := neighbours.1
  match readsBack quanta lower exponent, readsBack quanta (lower + 1) exponent with
  | true, true => some (if neighbours.2 then lower + 1 else lower)
  | true, false => some lower
  | false, true => some (lower + 1)
  | false, false => none

/-- Looks for a mantissa at `exponent` and then at finer ones; `fuel` bounds
the search. -/
def searchMantissa (quanta : Nat) : Nat → Int → Nat × Int
  | 0, exponent => ((decimalNeighbours quanta exponent).1, exponent)
  | fuel + 1, exponent =>
    match mantissaAt? quanta exponent with
    | some mantissa => (mantissa, exponent)
    | none => searchMantissa quanta fuel (exponent - 1)

/-- The shortest decimal `mantissa * 10 ^ exponent` that reads back to a
positive count of quanta. Seventeen digits always do. -/
def shortestDecimal (quanta : Nat) : Nat × Int :=
  searchMantissa quanta 17 (decimalExponent quanta)

/-- How a number with given digits is laid out. -/
structure ExponentLayout where
  /-- The least exponent written without an exponent part. -/
  leastPositional : Int
  /-- The first exponent too large to be written without an exponent part. -/
  firstScientific : Int
  /-- The least count of digits of an exponent. -/
  exponentDigits : Nat

/-- Positional from `0.0001` to below `1e16`, otherwise an exponent of at
least two digits. -/
def ExponentLayout.standard : ExponentLayout := ⟨-4, 16, 2⟩

/-- Digits with a decimal point after the first `whole` of them; at least one
digit stands on each side. -/
def pointedDigits (digits : List Char) (whole : Int) : List Char :=
  if whole ≤ 0 then
    '0' :: '.' :: (List.replicate (-whole).toNat '0' ++ digits)
  else
    let count := whole.toNat
    let front := digits.take count
    let back := digits.drop count
    front ++ List.replicate (count - digits.length) '0' ++
      '.' :: (if back.isEmpty then ['0'] else back)

/-- Digits with an exponent part: the point after the first digit, left out
when it is the only one. -/
def scientificDigits (layout : ExponentLayout) (digits : List Char) (exponent : Int) : List Char :=
  let front := digits.take 1
  let back := digits.drop 1
  let magnitude := decimalDigits exponent.natAbs
  front ++ (if back.isEmpty then [] else '.' :: back) ++
    'e' :: (if exponent < 0 then '-' else '+') ::
    (List.replicate (layout.exponentDigits - magnitude.length) '0' ++ magnitude)

/-- The unsigned shortest text of a positive count of quanta. -/
def shortestMagnitude (quanta : Nat) : List Char :=
  let decimal := shortestDecimal quanta
  let written := decimalDigits decimal.1
  let exponent := decimal.2 + (written.length : Int) - 1
  -- A carry such as 9.99 to 10 leaves zeros behind the last significant digit.
  let digits := (written.reverse.dropWhile (· == '0')).reverse
  let layout := ExponentLayout.standard
  if layout.leastPositional ≤ exponent ∧ exponent < layout.firstScientific then
    pointedDigits digits (exponent + 1)
  else
    scientificDigits layout digits exponent

/-- A minus sign in front of a negative number. -/
def signed (negative : Bool) (magnitude : List Char) : String :=
  String.ofList (if negative then '-' :: magnitude else magnitude)

/-- The fewest digits that read back to the number. -/
def shortestText : Binary64 → String
  | nan => "nan"
  | infinity negative => signed negative ['i', 'n', 'f']
  | finite negative quanta _ _ =>
    if quanta = 0 then signed negative ['0', '.', '0']
    else signed negative (shortestMagnitude quanta)

/-- The count of hundredths nearest to a count of quanta. -/
def hundredths (quanta : Nat) : Nat :=
  roundHalfEven (quanta * 100) quantaPerUnit

/-- A count of hundredths with two places. -/
def hundredthsText (count : Nat) : List Char :=
  let places := count % 100
  decimalDigits (count / 100) ++
    ['.', Char.ofNat ('0'.toNat + places / 10), Char.ofNat ('0'.toNat + places % 10)]

/-- The number with exactly two places. -/
def fixedText : Binary64 → String
  | nan => "nan"
  | infinity negative => signed negative ['i', 'n', 'f']
  | finite negative quanta _ _ => signed negative (hundredthsText (hundredths quanta))

/-- The number nearest to the two-place value. -/
def roundedToHundredths : Binary64 → Binary64
  | finite negative quanta _ _ => ofFraction negative (hundredths quanta) 100
  | value => value

end Binary64

end PatchCoverage
