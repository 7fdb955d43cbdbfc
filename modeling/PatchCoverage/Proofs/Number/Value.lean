import Mathlib.Algebra.Order.BigOperators.Group.List
import Mathlib.Algebra.BigOperators.Group.List.Basic
import Mathlib.Data.List.Forall2
import PatchCoverage.Number.Binary64
import PatchCoverage.Proofs.Number.Rounding

namespace PatchCoverage

/-!
# The rational value of a double-precision number

A finite number is a fraction of whole quanta, and comparing two of them is
comparing fractions.  `Binary64.HasValue` names the numbers without a minus
sign together with their value; for these the four operations of this file are
followed through one rounding each:

* quotient and product are off by at most `unitRoundoff` times the exact
  result, and by `underflow`, half a quantum;
* a sum is off by at most `unitRoundoff` times the exact sum, since quanta add
  up to quanta;
* a sum of many is off by twice as much for each number added.

The bounds hold for exact results up to `2 ^ 64`, far from any overflow.  A sum
of percentages never gets there: it stops growing at `2 ^ 60`, where a
percentage is less than half the distance to the next number.
-/

namespace Binary64

theorem two_pow_hundred_le_quantaPerUnit : 2 ^ 100 ≤ quantaPerUnit := by
  decide +kernel

theorem two_pow_mul_quantaPerUnit_lt_overflowQuanta :
    2 ^ 65 * quantaPerUnit < overflowQuanta := by
  decide +kernel

theorem ten_pow_mul_quantaPerUnit_le :
    Nat.pow 10 300 * quantaPerUnit ≤ 2 ^ (2018 + 53) := by
  decide +kernel

theorem ten_pow_mul_le_of_le {digits bound count limit : Nat} (hDigits : digits ≤ bound)
    (h : Nat.pow 10 bound * count ≤ limit) : Nat.pow 10 digits * count ≤ limit :=
  (Nat.mul_le_mul_right count (Nat.pow_le_pow_right (by decide) hDigits)).trans h

theorem two_pow_lt_overflowQuanta : 2 ^ (2018 + 53) < overflowQuanta := by
  decide +kernel

theorem quantaPerUnit_pos : 0 < quantaPerUnit :=
  lt_of_lt_of_le (by decide) two_pow_hundred_le_quantaPerUnit

theorem exists_quantaPerUnit_eq : ∃ exponent, quantaPerUnit = Nat.pow 2 exponent :=
  ⟨1074, by unfold quantaPerUnit; rfl⟩

/-- Natural numbers up to `2 ^ 53`, in quanta, have few bits. -/
theorem hasFewBits_mul_quantaPerUnit {count : Nat} (h : count ≤ 2 ^ 53) :
    HasFewBits (count * quantaPerUnit) := by
  obtain ⟨exponent, hExponent⟩ := exists_quantaPerUnit_eq
  rw [hExponent]
  exact hasFewBits_mul_two_pow h

-- The two counts are far too large to be written out, so nothing below may unfold them.
attribute [local irreducible] quantaPerUnit overflowQuanta

/-- The value of a finite number. -/
def toRat? : Binary64 → Option ℚ
  | nan => none
  | infinity _ => none
  | finite negative quanta _ _ => some (signedQuanta negative quanta / quantaPerUnit)

/-- An order of finite numbers is the order of their values. -/
theorem le_eq_true_iff {left right : Binary64} {first second : ℚ}
    (hLeft : left.toRat? = some first) (hRight : right.toRat? = some second) :
    left.le right = true ↔ first ≤ second := by
  cases left with
  | nan => simp [toRat?] at hLeft
  | infinity negative => simp [toRat?] at hLeft
  | finite leftNegative leftQuanta _ _ =>
      cases right with
      | nan => simp [toRat?] at hRight
      | infinity negative => simp [toRat?] at hRight
      | finite rightNegative rightQuanta _ _ =>
          have hPositive : (0 : ℚ) < quantaPerUnit := by exact_mod_cast quantaPerUnit_pos
          obtain rfl := Option.some.inj hLeft
          obtain rfl := Option.some.inj hRight
          rw [div_le_div_iff_of_pos_right hPositive, Int.cast_le]
          simp [le, position?]

theorem position?_eq_none_iff {number : Binary64} : number.position? = none ↔ number = nan := by
  cases number <;> simp [position?]

/-- One of two numbers is less, or the other one is at most as great, unless
there is no order between them. -/
theorem lt_eq_not_le_iff {left right : Binary64} :
    left.lt right = !right.le left ↔ left ≠ nan ∧ right ≠ nan := by
  rw [ne_eq, ne_eq, ← position?_eq_none_iff, ← position?_eq_none_iff]
  unfold lt le
  -- Only two positions can be compared; without one of them both sides are false.
  rcases left.position? with - | first <;> rcases right.position? with - | second
  · simp
  · simp
  · simp
  · have hOrder : decide (first < second) = !decide (second ≤ first) := by
      rw [← decide_not, decide_eq_decide, not_le]
    simpa using hOrder

/-- A finite number without a minus sign, and its value. -/
def HasValue (number : Binary64) (value : ℚ) : Prop :=
  ∃ quanta inRange fewBits, number = finite false quanta inRange fewBits ∧
    value = quanta / quantaPerUnit

theorem HasValue.toRat? {number : Binary64} {value : ℚ} (h : number.HasValue value) :
    number.toRat? = some value := by
  obtain ⟨quanta, inRange, fewBits, rfl, rfl⟩ := h
  simp [Binary64.toRat?, signedQuanta]

theorem HasValue.nonneg {number : Binary64} {value : ℚ} (h : number.HasValue value) :
    0 ≤ value := by
  obtain ⟨quanta, inRange, fewBits, rfl, rfl⟩ := h
  positivity

/-! ## One rounding -/

/-- Half a quantum, the error of a rounding near zero. -/
def underflow : ℚ := 1 / (2 * quantaPerUnit)

theorem underflow_le : underflow ≤ 1 / 2 ^ 100 := by
  have hCast : (2 ^ 100 : ℚ) ≤ quantaPerUnit := by
    exact_mod_cast two_pow_hundred_le_quantaPerUnit
  exact one_div_le_one_div_of_le (by positivity) (by linarith)

/-- Up to `2 ^ 65` nothing overflows. -/
theorem lt_overflowQuanta {quanta : Nat} (h : (quanta : ℚ) / quantaPerUnit ≤ 2 ^ 65) :
    quanta < overflowQuanta := by
  have hPositive : (0 : ℚ) < quantaPerUnit := by exact_mod_cast quantaPerUnit_pos
  have hQuanta : quanta ≤ 2 ^ 65 * quantaPerUnit := by
    rw [div_le_iff₀ hPositive] at h
    exact_mod_cast h
  exact hQuanta.trans_lt two_pow_mul_quantaPerUnit_lt_overflowQuanta

/-- A rounded fraction of quanta, in units. -/
theorem abs_roundToBits_div_sub_le (numerator : Nat) {denominator : Nat} (h : 0 < denominator)
    {ideal : ℚ} (hIdeal : ideal = numerator / denominator / quantaPerUnit) :
    |(roundToBits numerator denominator : ℚ) / quantaPerUnit - ideal| ≤
      unitRoundoff * ideal + underflow := by
  have hPositive : (0 : ℚ) < quantaPerUnit := by exact_mod_cast quantaPerUnit_pos
  have hScaled : (roundToBits numerator denominator : ℚ) / quantaPerUnit - ideal =
      (roundToBits numerator denominator - numerator / denominator) / quantaPerUnit := by
    rw [hIdeal, sub_div]
  have hBound : unitRoundoff * ideal + underflow =
      (unitRoundoff * (numerator / denominator) + 1 / 2) / quantaPerUnit := by
    rw [hIdeal, underflow]
    field_simp
  rw [hScaled, hBound, abs_div, abs_of_pos hPositive]
  exact div_le_div_of_nonneg_right (abs_roundToBits_sub_le numerator h) hPositive.le

theorem hasValue_rounded_of_lt {numerator denominator : Nat}
    (h : roundToBits numerator denominator < overflowQuanta) :
    (rounded false numerator denominator).HasValue
      (roundToBits numerator denominator / quantaPerUnit) :=
  ⟨_, h, hasFewBits_roundToBits numerator denominator, dif_pos h, rfl⟩

/-- The number nearest to a fraction of quanta, for a fraction of moderate
size. -/
theorem hasValue_rounded (numerator : Nat) {denominator : Nat} (h : 0 < denominator) {ideal : ℚ}
    (hIdeal : ideal = numerator / denominator / quantaPerUnit) (hSmall : ideal ≤ 2 ^ 64) :
    ∃ value, (rounded false numerator denominator).HasValue value ∧
      |value - ideal| ≤ unitRoundoff * ideal + underflow := by
  have hNear := abs_roundToBits_div_sub_le numerator h hIdeal
  have hRange : roundToBits numerator denominator < overflowQuanta := by
    apply lt_overflowQuanta
    have hUnderflow := underflow_le
    have hUpper := (abs_le.mp hNear).2
    unfold unitRoundoff at hUpper
    norm_num at hSmall hUnderflow hUpper ⊢
    linarith
  exact ⟨_, hasValue_rounded_of_lt hRange, hNear⟩

/-- A count of quanta that has few bits and is in range is no matter of
rounding. -/
theorem rounded_of_hasFewBits {quanta : Nat} (inRange : quanta < overflowQuanta)
    (fewBits : HasFewBits quanta) :
    rounded false quanta 1 = finite false quanta inRange fewBits := by
  have hSame := roundToBits_of_hasFewBits fewBits
  unfold rounded
  simp only [hSame, inRange, dite_true]

/-! ## Constants -/

/-- Natural numbers up to `2 ^ 53` are numbers of this type. -/
theorem hasValue_ofNat {count : Nat} (h : count ≤ 2 ^ 53) : (ofNat count).HasValue count := by
  have hPositive : (0 : ℚ) < quantaPerUnit := by exact_mod_cast quantaPerUnit_pos
  have hValue : ((count * quantaPerUnit : Nat) : ℚ) / quantaPerUnit = count := by
    push_cast
    field_simp
  have hRange : count * quantaPerUnit < overflowQuanta := by
    apply lt_overflowQuanta
    rw [hValue]
    have hCount : (count : ℚ) ≤ 2 ^ 53 := by exact_mod_cast h
    norm_num at hCount ⊢
    linarith
  have hFewBits := hasFewBits_mul_quantaPerUnit h
  exact ⟨_, hRange, hFewBits, rounded_of_hasFewBits hRange hFewBits, hValue.symm⟩

/-- A natural number that is not zero is not halved, unless it is out of range. -/
theorem ofNat_eq_infinity_or {count : Nat} (h : 0 < count) :
    ofNat count = infinity false ∨ ∃ value, (ofNat count).HasValue value ∧ count ≤ 2 * value := by
  by_cases hRange : roundToBits (count * quantaPerUnit) 1 < overflowQuanta
  · right
    have hPositive : (0 : ℚ) < quantaPerUnit := by exact_mod_cast quantaPerUnit_pos
    have hIdeal : (count : ℚ) =
        ((count * quantaPerUnit : Nat) : ℚ) / (1 : Nat) / quantaPerUnit := by
      push_cast
      field_simp
    have hCount : (1 : ℚ) ≤ count := by exact_mod_cast h
    have hUnderflow := underflow_le
    have hLower := (abs_le.mp (abs_roundToBits_div_sub_le _ Nat.one_pos hIdeal)).1
    unfold unitRoundoff at hLower
    exact ⟨_, hasValue_rounded_of_lt hRange, by linarith⟩
  · left
    exact dif_neg hRange

theorem hasValue_zero : zero.HasValue 0 := by
  exact_mod_cast hasValue_ofNat (Nat.zero_le (2 ^ 53))

theorem hasValue_hundred : hundred.HasValue 100 := by
  exact_mod_cast hasValue_ofNat (by decide : 100 ≤ 2 ^ 53)

/-- An integer of at most 300 digits is within the finite range. -/
theorem exists_ofInt_eq_ok {value : Int} {digits : Nat} (hDigits : digits ≤ 300)
    (h : value.natAbs < Nat.pow 10 digits) : ∃ number, ofInt value = .ok number := by
  have hQuanta : value.natAbs * quantaPerUnit ≤ 2 ^ (2018 + 53) :=
    (Nat.mul_le_mul_right quantaPerUnit h.le).trans
      (ten_pow_mul_le_of_le hDigits ten_pow_mul_quantaPerUnit_le)
  have hRange : roundToBits (value.natAbs * quantaPerUnit) 1 < overflowQuanta :=
    (roundToBits_le_two_pow (hQuanta.trans (Nat.le_add_right _ _))).trans_lt
      two_pow_lt_overflowQuanta
  unfold ofInt ofFraction rounded
  simp only [hRange, dite_true]
  exact ⟨_, rfl⟩

/-! ## Operations -/

section Operations

variable {left right : Binary64} {first second : ℚ}

/-- The quotient of two integers, the first of which lies between zero and the
second. -/
theorem hasValue_ofQuotient {dividend divisor : Int} (hDividend : 0 ≤ dividend)
    (hDivisor : 0 < divisor) (hFraction : dividend ≤ divisor) :
    ∃ number value, ofQuotient dividend divisor = .ok number ∧ number.HasValue value ∧
      |value - dividend / divisor| ≤ unitRoundoff * (dividend / divisor) + underflow := by
  obtain ⟨dividend, rfl⟩ := Int.eq_ofNat_of_zero_le hDividend
  obtain ⟨divisor, rfl⟩ := Int.eq_ofNat_of_zero_le hDivisor.le
  have hPositive : (0 : ℚ) < quantaPerUnit := by exact_mod_cast quantaPerUnit_pos
  have hNatDivisor : 0 < divisor := by exact_mod_cast hDivisor
  have hRatDivisor : (0 : ℚ) < divisor := by exact_mod_cast hDivisor
  have hAtMostOne : (dividend : ℚ) / divisor ≤ 1 := by
    rw [div_le_one hRatDivisor]
    exact_mod_cast hFraction
  have hIdeal : (dividend : ℚ) / divisor =
      ((dividend * quantaPerUnit : Nat) : ℚ) / divisor / quantaPerUnit := by
    push_cast
    field_simp
  obtain ⟨value, hValue, hNear⟩ :=
    hasValue_rounded (dividend * quantaPerUnit) hNatDivisor hIdeal
      (hAtMostOne.trans (by norm_num))
  obtain ⟨quanta, inRange, fewBits, hNumber, -⟩ := id hValue
  refine ⟨_, value, ?_, hValue, by simpa using hNear⟩
  have hNonzero : ¬ (divisor : Int) = 0 := hDivisor.ne'
  have hNoSign : (decide ((dividend : Int) < 0) != decide ((divisor : Int) < 0)) = false := by
    rw [decide_eq_false hDividend.not_gt, decide_eq_false hDivisor.le.not_gt]
    rfl
  rw [ofQuotient, if_neg hNonzero, hNoSign, ofFraction, Int.natAbs_natCast, Int.natAbs_natCast,
    hNumber]
  rfl

/-- A product of moderate size. -/
theorem HasValue.mul (hLeft : left.HasValue first) (hRight : right.HasValue second)
    (hSmall : first * second ≤ 2 ^ 64) :
    ∃ value, (left * right).HasValue value ∧
      |value - first * second| ≤ unitRoundoff * (first * second) + underflow := by
  obtain ⟨leftQuanta, leftRange, leftBits, rfl, rfl⟩ := hLeft
  obtain ⟨rightQuanta, rightRange, rightBits, rfl, rfl⟩ := hRight
  have hIdeal : (leftQuanta : ℚ) / quantaPerUnit * (rightQuanta / quantaPerUnit) =
      ((leftQuanta * rightQuanta : Nat) : ℚ) / quantaPerUnit / quantaPerUnit := by
    push_cast
    ring
  exact hasValue_rounded (leftQuanta * rightQuanta) quantaPerUnit_pos hIdeal hSmall

/-- A quotient of moderate size. -/
theorem HasValue.div (hLeft : left.HasValue first) (hRight : right.HasValue second)
    (hPositive : 0 < second) (hSmall : first / second ≤ 2 ^ 64) :
    ∃ value, (left / right).HasValue value ∧
      |value - first / second| ≤ unitRoundoff * (first / second) + underflow := by
  obtain ⟨leftQuanta, leftRange, leftBits, rfl, rfl⟩ := hLeft
  obtain ⟨rightQuanta, rightRange, rightBits, rfl, rfl⟩ := hRight
  have hUnit : (0 : ℚ) < quantaPerUnit := by exact_mod_cast quantaPerUnit_pos
  have hRightQuanta : 0 < rightQuanta := by
    rcases Nat.eq_zero_or_pos rightQuanta with rfl | hRight
    · simp at hPositive
    · exact hRight
  have hRatQuanta : (0 : ℚ) < rightQuanta := by exact_mod_cast hRightQuanta
  have hIdeal : (leftQuanta : ℚ) / quantaPerUnit / (rightQuanta / quantaPerUnit) =
      ((leftQuanta * quantaPerUnit : Nat) : ℚ) / rightQuanta / quantaPerUnit := by
    push_cast
    field_simp
  obtain ⟨value, hValue, hNear⟩ :=
    hasValue_rounded (leftQuanta * quantaPerUnit) hRightQuanta hIdeal hSmall
  refine ⟨value, ?_, hNear⟩
  have hQuotient : finite false leftQuanta leftRange leftBits /
      finite false rightQuanta rightRange rightBits =
      rounded false (leftQuanta * quantaPerUnit) rightQuanta :=
    if_neg hRightQuanta.ne'
  rwa [hQuotient]

theorem HasValue.div_infinity (h : left.HasValue first) : (left / infinity false).HasValue 0 := by
  obtain ⟨quanta, inRange, fewBits, rfl, -⟩ := h
  have hRange : 0 < overflowQuanta :=
    (Nat.zero_le _).trans_lt two_pow_mul_quantaPerUnit_lt_overflowQuanta
  exact ⟨0, hRange, hasFewBits_zero, rounded_of_hasFewBits hRange hasFewBits_zero, by simp⟩

/-- A sum is rounded once. -/
theorem finite_add_finite {leftQuanta rightQuanta : Nat} (leftRange : leftQuanta < overflowQuanta)
    (leftBits : HasFewBits leftQuanta) (rightRange : rightQuanta < overflowQuanta)
    (rightBits : HasFewBits rightQuanta) :
    finite false leftQuanta leftRange leftBits + finite false rightQuanta rightRange rightBits =
      rounded false (leftQuanta + rightQuanta) 1 := by
  change (if (leftQuanta : Int) + rightQuanta = 0 then rounded (false && false) 0 1
    else rounded (decide ((leftQuanta : Int) + rightQuanta < 0))
      ((leftQuanta : Int) + rightQuanta).natAbs 1) = _
  have hNoSign : decide ((leftQuanta : Int) + rightQuanta < 0) = false := by
    simp only [decide_eq_false_iff_not]
    omega
  have hAbs : ((leftQuanta : Int) + rightQuanta).natAbs = leftQuanta + rightQuanta := by omega
  rw [hNoSign, hAbs]
  split
  · rw [show leftQuanta + rightQuanta = 0 by omega]
    rfl
  · rfl

/-- A sum of moderate size.  Both operands are whole quanta, so nothing is lost
near zero. -/
theorem HasValue.add (hLeft : left.HasValue first) (hRight : right.HasValue second)
    (hSmall : first + second ≤ 2 ^ 64) :
    ∃ value, (left + right).HasValue value ∧
      |value - (first + second)| ≤ unitRoundoff * (first + second) := by
  obtain ⟨leftQuanta, leftRange, leftBits, rfl, rfl⟩ := hLeft
  obtain ⟨rightQuanta, rightRange, rightBits, rfl, rfl⟩ := hRight
  have hUnit : (0 : ℚ) < quantaPerUnit := by exact_mod_cast quantaPerUnit_pos
  rw [finite_add_finite]
  rw [← add_div, ← Nat.cast_add] at hSmall ⊢
  generalize leftQuanta + rightQuanta = sum at *
  have hNear := abs_roundToBits_one_sub_le sum
  have hRange : roundToBits sum 1 < overflowQuanta := by
    apply lt_overflowQuanta
    rw [div_le_iff₀ hUnit] at hSmall ⊢
    have hUpper := (abs_le.mp hNear).2
    unfold unitRoundoff at hUpper
    linarith
  refine ⟨_, hasValue_rounded_of_lt hRange, ?_⟩
  rw [← sub_div, abs_div, abs_of_pos hUnit, ← mul_div_assoc]
  exact div_le_div_of_nonneg_right hNear hUnit.le

/-- A sum does not pass `2 ^ 60` by adding little to it. -/
theorem HasValue.add_le (hLeft : left.HasValue first) (hRight : right.HasValue second)
    (hFirst : first ≤ 2 ^ 60) (hSecond : second ≤ 2 ^ 7) :
    ∃ value, (left + right).HasValue value ∧ value ≤ 2 ^ 60 := by
  obtain ⟨leftQuanta, leftRange, leftBits, rfl, rfl⟩ := hLeft
  obtain ⟨rightQuanta, rightRange, rightBits, rfl, rfl⟩ := hRight
  have hUnit : (0 : ℚ) < quantaPerUnit := by exact_mod_cast quantaPerUnit_pos
  obtain ⟨exponent, hExponent⟩ := exists_quantaPerUnit_eq
  rw [finite_add_finite]
  rw [div_le_iff₀ hUnit] at hFirst hSecond
  have hLeftQuanta : leftQuanta ≤ 2 ^ 60 * quantaPerUnit := by exact_mod_cast hFirst
  have hRightQuanta : rightQuanta ≤ 2 ^ 7 * quantaPerUnit := by exact_mod_cast hSecond
  rw [Nat.pow_eq] at hExponent
  -- In quanta the two limits are powers of two that are 53 apart.
  have hSum : leftQuanta + rightQuanta ≤ 2 ^ (7 + exponent + 53) + 2 ^ (7 + exponent) := by
    rw [hExponent] at hLeftQuanta hRightQuanta
    rw [show 7 + exponent + 53 = 60 + exponent by omega, Nat.pow_add 2 60, Nat.pow_add 2 7]
    exact Nat.add_le_add hLeftQuanta hRightQuanta
  have hUpper : (roundToBits (leftQuanta + rightQuanta) 1 : ℚ) / quantaPerUnit ≤ 2 ^ 60 := by
    have hRounded := roundToBits_le_two_pow hSum
    rw [show 7 + exponent + 53 = 60 + exponent by omega, Nat.pow_add, ← hExponent] at hRounded
    rw [div_le_iff₀ hUnit]
    exact_mod_cast hRounded
  have hRange := lt_overflowQuanta (hUpper.trans (by norm_num))
  exact ⟨_, hasValue_rounded_of_lt hRange, hUpper⟩

end Operations

theorem sum_nonneg_of_hasValue {numbers : List Binary64} {values : List ℚ}
    (h : List.Forall₂ HasValue numbers values) : 0 ≤ values.sum := by
  induction h with
  | nil => simp
  | cons hNumber _ ih =>
      rw [List.sum_cons]
      exact add_nonneg hNumber.nonneg ih

/-- The sum of a list, added from the left to a start that is the outcome of
`count` roundings near `ideal`.  Every further number rounds once more. -/
theorem hasValue_foldl_add {numbers : List Binary64} {values : List ℚ}
    (hNumbers : List.Forall₂ HasValue numbers values) {start : Binary64} {startValue ideal : ℚ}
    {count : Nat} (hStart : start.HasValue startValue) (hIdeal : 0 ≤ ideal)
    (hNear : |startValue - ideal| ≤ 2 * count * unitRoundoff * ideal)
    (hCount : count + values.length ≤ 2 ^ 52) (hSmall : ideal + values.sum ≤ 2 ^ 60) :
    ∃ value, (numbers.foldl (· + ·) start).HasValue value ∧
      |value - (ideal + values.sum)| ≤
        2 * (count + values.length : Nat) * unitRoundoff * (ideal + values.sum) := by
  induction hNumbers generalizing start startValue ideal count with
  | nil => exact ⟨startValue, hStart, by simpa using hNear⟩
  | @cons number value numbers values hNumber hRest ih =>
      have hValue : 0 ≤ value := hNumber.nonneg
      have hRestNonneg : 0 ≤ values.sum := sum_nonneg_of_hasValue hRest
      rw [List.sum_cons] at hSmall ⊢
      rw [List.length_cons] at hCount ⊢
      -- So far at most `2 ^ 52` roundings: the partial sum has at most doubled.
      have hFewRoundings : 2 * count * unitRoundoff ≤ 1 := by
        have hCast : (count : ℚ) ≤ 2 ^ 52 := by
          exact_mod_cast le_trans (Nat.le_add_right _ _) hCount
        unfold unitRoundoff
        linarith
      have hDoubled : startValue ≤ 2 * ideal := by
        have hUpper := (abs_le.mp hNear).2
        have hScaled := mul_le_mul_of_nonneg_right hFewRoundings hIdeal
        linarith
      obtain ⟨sum, hSum, hSumNear⟩ := hStart.add hNumber (by linarith)
      have hStep : |sum - (ideal + value)| ≤
          2 * (count + 1 : Nat) * unitRoundoff * (ideal + value) := by
        have hTriangle : |sum - (ideal + value)| ≤
            |sum - (startValue + value)| + |startValue - ideal| := by
          have hSplit : sum - (ideal + value) =
              (sum - (startValue + value)) + (startValue - ideal) := by ring
          rw [hSplit]
          exact abs_add_le _ _
        have hLast : unitRoundoff * (startValue + value) ≤
            2 * unitRoundoff * (ideal + value) := by
          have hPartial : startValue + value ≤ 2 * (ideal + value) := by linarith
          linarith [mul_le_mul_of_nonneg_left hPartial unitRoundoff_pos.le]
        have hEarlier : 0 ≤ 2 * (count : ℚ) * unitRoundoff * value :=
          mul_nonneg (mul_nonneg (by positivity) unitRoundoff_pos.le) hValue
        push_cast
        linarith
      obtain ⟨total, hTotal, hTotalNear⟩ :=
        ih hSum (add_nonneg hIdeal hValue) hStep (by omega) (by linarith)
      refine ⟨total, hTotal, ?_⟩
      rwa [add_assoc ideal, Nat.add_assoc count, Nat.add_comm 1] at hTotalNear

/-- However many numbers up to `2 ^ 7` are added, their sum stops at `2 ^ 60`. -/
theorem exists_hasValue_foldl_add {numbers : List Binary64} {values : List ℚ}
    (hNumbers : List.Forall₂ HasValue numbers values) (hValues : ∀ value ∈ values, value ≤ 2 ^ 7)
    {start : Binary64} {startValue : ℚ} (hStart : start.HasValue startValue)
    (hStartValue : startValue ≤ 2 ^ 60) :
    ∃ value, (numbers.foldl (· + ·) start).HasValue value ∧ value ≤ 2 ^ 60 := by
  induction hNumbers generalizing start startValue with
  | nil => exact ⟨startValue, hStart, hStartValue⟩
  | @cons number value numbers values hNumber hRest ih =>
      obtain ⟨sum, hSum, hSumValue⟩ :=
        hStart.add_le hNumber hStartValue (hValues value List.mem_cons_self)
      exact ih (fun other hOther => hValues other (List.mem_cons_of_mem _ hOther)) hSum hSumValue

end Binary64

end PatchCoverage
