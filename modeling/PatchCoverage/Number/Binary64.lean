import PatchCoverage.Number.Rounding

namespace PatchCoverage

/-!
# Double-precision numbers

A finite number is a sign and a count of *quanta*, where one quantum is the
least positive number, `2 ^ -1074`.  Every double-precision number is a whole
number of quanta, so a sum is exact in quanta before it is rounded, and an
order of numbers is an order of integers.

* `Binary64.rounded` is the only way a result is made: the nearest number of
  at most 53 significant bits, a half going to the even one, and an infinity
  from `2 ^ 1024` on.
* Integers are read and divided exactly first; a result beyond the finite
  range is then refused, not made infinite.
* A comparison with `nan` is false, whichever way it is asked.
-/

/-- The number of quanta in one unit. -/
def Binary64.quantaPerUnit : Nat := Nat.pow 2 1074

/-- The first count of quanta that is out of range: `2 ^ 1024` units. -/
def Binary64.overflowQuanta : Nat := Nat.pow 2 2098

/-- A double-precision number. -/
inductive Binary64 where
  /-- Not a number. -/
  | nan
  /-- Beyond every finite number of its sign. -/
  | infinity (negative : Bool)
  /-- A finite number as a sign and a count of quanta. -/
  | finite (negative : Bool) (quanta : Nat)
      (inRange : quanta < Binary64.overflowQuanta) (fewBits : HasFewBits quanta)
  deriving DecidableEq

/-- What integer arithmetic refuses when its result is to be a number of this
type. -/
inductive ArithmeticError where
  /-- The exact result rounds to no finite number. -/
  | overflow
  /-- The divisor is zero. -/
  | divisionByZero
  deriving DecidableEq, Repr

namespace Binary64

/-- The number nearest to `numerator / denominator` quanta with the given sign. -/
def rounded (negative : Bool) (numerator denominator : Nat) : Binary64 :=
  let quanta := roundToBits numerator denominator
  if inRange : quanta < overflowQuanta then
    finite negative quanta inRange (hasFewBits_roundToBits numerator denominator)
  else
    infinity negative

/-- The number nearest to the fraction `numerator / denominator` of a unit. -/
def ofFraction (negative : Bool) (numerator denominator : Nat) : Binary64 :=
  rounded negative (numerator * quantaPerUnit) denominator

/-- Positive zero. -/
def zero : Binary64 :=
  ofFraction false 0 1

/-- The number nearest to a natural number. -/
def ofNat (value : Nat) : Binary64 :=
  ofFraction false value 1

/-- One hundred, the percentage of a whole. -/
def hundred : Binary64 :=
  ofNat 100

/-- `mantissa * 10 ^ exponent` with the given sign, rounded once. -/
def ofDecimal (negative : Bool) (mantissa : Nat) (exponent : Int) : Binary64 :=
  match exponent with
  | .ofNat power => ofFraction negative (mantissa * Nat.pow 10 power) 1
  | .negSucc power => ofFraction negative mantissa (Nat.pow 10 (power + 1))

/-- A finite result, or the refusal of one that is out of range. -/
def checkFinite : Binary64 → Except ArithmeticError Binary64
  | infinity _ => .error .overflow
  | value => .ok value

/-- The number nearest to an integer, refused beyond the finite range. -/
def ofInt (value : Int) : Except ArithmeticError Binary64 :=
  checkFinite (ofFraction (decide (value < 0)) value.natAbs 1)

/-- The number nearest to the exact quotient of two integers. The sign of a
zero quotient is that of a negative divisor. -/
def ofQuotient (dividend divisor : Int) : Except ArithmeticError Binary64 :=
  if divisor = 0 then
    .error .divisionByZero
  else
    checkFinite (ofFraction (decide (dividend < 0) != decide (divisor < 0))
      dividend.natAbs divisor.natAbs)

/-- Quanta as a signed count. -/
def signedQuanta (negative : Bool) (quanta : Nat) : Int :=
  if negative then -(quanta : Int) else quanta

/-- The position of a number on the line of integers, infinities included;
`nan` has none. -/
def position? : Binary64 → Option Int
  | nan => none
  | infinity negative => some (signedQuanta negative overflowQuanta)
  | finite negative quanta _ _ => some (signedQuanta negative quanta)

/-- `left ≤ right`, which is false when either is `nan`. -/
def le (left right : Binary64) : Bool :=
  match left.position?, right.position? with
  | some first, some second => decide (first ≤ second)
  | _, _ => false

/-- `left < right`, which is false when either is `nan`. -/
def lt (left right : Binary64) : Bool :=
  match left.position?, right.position? with
  | some first, some second => decide (first < second)
  | _, _ => false

/-- The sum, rounded once. -/
def add : Binary64 → Binary64 → Binary64
  | nan, _ => nan
  | _, nan => nan
  | infinity first, infinity second => if first = second then infinity first else nan
  | infinity first, _ => infinity first
  | _, infinity second => infinity second
  | finite first left _ _, finite second right _ _ =>
    let sum := signedQuanta first left + signedQuanta second right
    if sum = 0 then
      rounded (first && second) 0 1
    else
      rounded (decide (sum < 0)) sum.natAbs 1

/-- The product, rounded once. -/
def mul : Binary64 → Binary64 → Binary64
  | nan, _ => nan
  | _, nan => nan
  | infinity first, infinity second => infinity (first != second)
  | infinity first, finite second right _ _ => if right = 0 then nan else infinity (first != second)
  | finite first left _ _, infinity second => if left = 0 then nan else infinity (first != second)
  | finite first left _ _, finite second right _ _ =>
    rounded (first != second) (left * right) quantaPerUnit

/-- The quotient, rounded once; a zero divisor makes an infinity, or `nan` of
zero. -/
def div : Binary64 → Binary64 → Binary64
  | nan, _ => nan
  | _, nan => nan
  | infinity _, infinity _ => nan
  | infinity first, finite second _ _ _ => infinity (first != second)
  | finite first _ _ _, infinity second => rounded (first != second) 0 1
  | finite first left _ _, finite second right _ _ =>
    if right = 0 then
      if left = 0 then nan else infinity (first != second)
    else
      rounded (first != second) (left * quantaPerUnit) right

/-- The number with the opposite sign. -/
def neg : Binary64 → Binary64
  | nan => nan
  | infinity negative => infinity (!negative)
  | finite negative quanta inRange fewBits => finite (!negative) quanta inRange fewBits

instance : Add Binary64 := ⟨add⟩
instance : Mul Binary64 := ⟨mul⟩
instance : Div Binary64 := ⟨div⟩
instance : Neg Binary64 := ⟨neg⟩

/-- Neither `nan` nor an infinity. -/
def isFinite : Binary64 → Bool
  | finite .. => true
  | _ => false

end Binary64

end PatchCoverage
