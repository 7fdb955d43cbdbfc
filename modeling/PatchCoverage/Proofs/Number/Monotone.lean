import Mathlib.Data.List.Forall2
import PatchCoverage.Proofs.Number.Value

namespace PatchCoverage

/-!
# Rounding keeps order

Of two quotients the greater one is not rounded below the other.  For roundings
to one step that is so because no multiple of the step lies between a quotient and
the one it is rounded to; where the steps differ, a power of two lies between the
quotients and is rounded to itself by both.

`Binary64.Within` orders two numbers without a minus sign, up to a bound.  Sums,
products and quotients keep it, and so does the sum of a list, however many
roundings it takes.
-/

/-- A greater quotient has no smaller whole part. -/
theorem div_le_div_of_mul_le_mul {first second firstDenominator secondDenominator : Nat}
    (hFirst : 0 < firstDenominator) (hSecond : 0 < secondDenominator)
    (h : first * secondDenominator ≤ second * firstDenominator) :
    first / firstDenominator ≤ second / secondDenominator := by
  rw [Nat.le_div_iff_mul_le hSecond]
  refine Nat.le_of_mul_le_mul_right ?_ hFirst
  calc first / firstDenominator * secondDenominator * firstDenominator
      = first / firstDenominator * firstDenominator * secondDenominator := by ring
    _ ≤ first * secondDenominator :=
        Nat.mul_le_mul_right _ (Nat.div_mul_le_self first firstDenominator)
    _ ≤ second * firstDenominator := h

/-- A greater quotient has no smaller nearest number. -/
theorem roundHalfEven_le_roundHalfEven {first second firstDenominator secondDenominator : Nat}
    (hFirst : 0 < firstDenominator) (hSecond : 0 < secondDenominator)
    (h : first * secondDenominator ≤ second * firstDenominator) :
    roundHalfEven first firstDenominator ≤ roundHalfEven second secondDenominator := by
  have hFirstDivision := Nat.div_add_mod first firstDenominator
  have hSecondDivision := Nat.div_add_mod second secondDenominator
  have hFirstRest := Nat.mod_lt first hFirst
  have hSecondRest := Nat.mod_lt second hSecond
  have hFloor := div_le_div_of_mul_le_mul hFirst hSecond h
  rcases Nat.lt_or_eq_of_le hFloor with hBelow | hSame
  · -- A whole number lies between the quotients, or one of them is that number.
    exact (roundHalfEven_le_div_add_one _ _).trans
      ((Nat.succ_le_of_lt hBelow).trans (div_le_roundHalfEven _ _))
  · -- Between the same whole numbers the rests decide.
    have hRests : first % firstDenominator * secondDenominator ≤
        second % secondDenominator * firstDenominator := by
      rw [← hFirstDivision, ← hSecondDivision, hSame] at h
      linarith
    unfold roundHalfEven
    dsimp only
    rw [hSame]
    generalize second / secondDenominator = floor
    split
    · split <;> omega
    · next hUp =>
      rw [if_neg]
      rintro (hDown | ⟨hTie, hEven⟩)
      · have hAtLeast : firstDenominator ≤ 2 * (first % firstDenominator) := by omega
        have hScaled := Nat.mul_le_mul_right secondDenominator hAtLeast
        have hBelow := Nat.mul_lt_mul_of_pos_right hDown hFirst
        linarith
      · -- A tie on the right is a tie or less on the left, and both go to the same even number.
        have hScaled : 2 * (first % firstDenominator) * secondDenominator ≤
            firstDenominator * secondDenominator := by
          calc 2 * (first % firstDenominator) * secondDenominator
              = 2 * (first % firstDenominator * secondDenominator) := by ring
            _ ≤ 2 * (second % secondDenominator * firstDenominator) :=
                Nat.mul_le_mul_left 2 hRests
            _ = 2 * (second % secondDenominator) * firstDenominator := by ring
            _ = firstDenominator * secondDenominator := by rw [hTie, Nat.mul_comm]
        have hAtMost := Nat.le_of_mul_le_mul_right hScaled hSecond
        omega

/-- A quotient that is at most a whole number is not rounded above it. -/
theorem roundHalfEven_le_of_le_mul {numerator denominator bound : Nat} (h : 0 < denominator)
    (hUpper : numerator ≤ bound * denominator) : roundHalfEven numerator denominator ≤ bound := by
  have hMonotone := roundHalfEven_le_roundHalfEven h h
    (Nat.mul_le_mul_right denominator hUpper)
  rwa [roundHalfEven_mul_right bound h] at hMonotone

/-- A quotient that is at least a whole number is not rounded below it. -/
theorem le_roundHalfEven_of_mul_le {numerator denominator bound : Nat} (h : 0 < denominator)
    (hLower : bound * denominator ≤ numerator) : bound ≤ roundHalfEven numerator denominator := by
  have hMonotone := roundHalfEven_le_roundHalfEven h h
    (Nat.mul_le_mul_right denominator hLower)
  rwa [roundHalfEven_mul_right bound h] at hMonotone

/-- A power of two that the spacing divides: the first one above a number. -/
theorem exists_mul_bitSpacing_eq (value : Nat) :
    ∃ count, count * bitSpacing value = 2 ^ (max value.log2 52 + 1) := by
  refine ⟨2 ^ 53, ?_⟩
  unfold bitSpacing
  rw [Nat.pow_eq, ← Nat.pow_add]
  congr 1
  omega

/-- A quotient below a power of two is not rounded above it. -/
theorem roundToBits_le_two_pow_log2 {numerator denominator : Nat} (h : 0 < denominator) :
    roundToBits numerator denominator ≤
      2 ^ (max (numerator / denominator).log2 52 + 1) := by
  obtain ⟨count, hCount⟩ := exists_mul_bitSpacing_eq (numerator / denominator)
  have hBelow : numerator / denominator < 2 ^ (max (numerator / denominator).log2 52 + 1) :=
    Nat.lt_log2_self.trans_le (Nat.pow_le_pow_right (by decide) (by omega))
  have hUpper : numerator ≤ count * (denominator * bitSpacing (numerator / denominator)) := by
    rw [Nat.mul_left_comm, hCount, Nat.mul_comm]
    exact ((Nat.div_lt_iff_lt_mul h).mp hBelow).le
  unfold roundToBits
  dsimp only
  rw [← hCount]
  exact Nat.mul_le_mul_right _
    (roundHalfEven_le_of_le_mul (Nat.mul_pos h (bitSpacing_pos _)) hUpper)

/-- A quotient from a power of two of more than 52 bits on is not rounded below it. -/
theorem two_pow_log2_le_roundToBits {numerator denominator : Nat} (h : 0 < denominator)
    (hLarge : 52 ≤ (numerator / denominator).log2) :
    2 ^ (numerator / denominator).log2 ≤ roundToBits numerator denominator := by
  have hNonzero : numerator / denominator ≠ 0 := by
    intro hZero
    rw [hZero] at hLarge
    simp at hLarge
  have hCount : 2 ^ 52 * bitSpacing (numerator / denominator) =
      2 ^ (numerator / denominator).log2 := by
    unfold bitSpacing
    rw [Nat.pow_eq, ← Nat.pow_add, Nat.add_sub_cancel' hLarge]
  have hLower : 2 ^ 52 * (denominator * bitSpacing (numerator / denominator)) ≤ numerator := by
    rw [Nat.mul_left_comm, hCount]
    calc denominator * 2 ^ (numerator / denominator).log2
        ≤ denominator * (numerator / denominator) :=
          Nat.mul_le_mul_left _ (Nat.log2_self_le hNonzero)
      _ ≤ numerator := Nat.mul_div_le numerator denominator
  unfold roundToBits
  dsimp only
  rw [← hCount]
  exact Nat.mul_le_mul_right _
    (le_roundHalfEven_of_mul_le (Nat.mul_pos h (bitSpacing_pos _)) hLower)

/-- A greater quotient has no smaller nearest number of 53 significant bits. -/
theorem roundToBits_le_roundToBits {first second firstDenominator secondDenominator : Nat}
    (hFirst : 0 < firstDenominator) (hSecond : 0 < secondDenominator)
    (h : first * secondDenominator ≤ second * firstDenominator) :
    roundToBits first firstDenominator ≤ roundToBits second secondDenominator := by
  have hFloor := div_le_div_of_mul_le_mul hFirst hSecond h
  have hLogs : (first / firstDenominator).log2 ≤ (second / secondDenominator).log2 := by
    rcases Nat.eq_zero_or_pos (first / firstDenominator) with hZero | hPositive
    · simp [hZero]
    · rw [Nat.le_log2 (hPositive.trans_le hFloor).ne']
      exact (Nat.log2_self_le hPositive.ne').trans hFloor
  by_cases hSame : bitSpacing (first / firstDenominator) = bitSpacing (second / secondDenominator)
  · unfold roundToBits
    dsimp only
    rw [hSame]
    refine Nat.mul_le_mul_right _ (roundHalfEven_le_roundHalfEven
      (Nat.mul_pos hFirst (bitSpacing_pos _)) (Nat.mul_pos hSecond (bitSpacing_pos _)) ?_)
    rw [← Nat.mul_assoc, ← Nat.mul_assoc]
    exact Nat.mul_le_mul_right _ h
  · -- The steps differ, so a power of two of at least 53 bits lies between the quotients.
    have hApart : max (first / firstDenominator).log2 52 + 1 ≤
        (second / secondDenominator).log2 := by
      by_contra hClose
      refine hSame ?_
      unfold bitSpacing
      congr 1
      omega
    calc roundToBits first firstDenominator
        ≤ 2 ^ (max (first / firstDenominator).log2 52 + 1) := roundToBits_le_two_pow_log2 hFirst
      _ ≤ 2 ^ (second / secondDenominator).log2 := Nat.pow_le_pow_right (by decide) hApart
      _ ≤ roundToBits second secondDenominator :=
          two_pow_log2_le_roundToBits hSecond (by omega)

namespace Binary64

-- As for the values themselves, nothing below may unfold the two counts.
attribute [local irreducible] quantaPerUnit overflowQuanta

theorem HasValue.unique {number : Binary64} {first second : ℚ} (hFirst : number.HasValue first)
    (hSecond : number.HasValue second) : first = second :=
  Option.some.inj (hFirst.toRat?.symm.trans hSecond.toRat?)

/-- Fractions of quanta are rounded in their order. -/
theorem le_of_hasValue_rounded {first second firstDenominator secondDenominator : Nat}
    (hFirst : 0 < firstDenominator) (hSecond : 0 < secondDenominator)
    (h : first * secondDenominator ≤ second * firstDenominator) {less more : ℚ}
    (hLess : (rounded false first firstDenominator).HasValue less)
    (hMore : (rounded false second secondDenominator).HasValue more) : less ≤ more := by
  have hRounded := roundToBits_le_roundToBits hFirst hSecond h
  have hPositive : (0 : ℚ) < quantaPerUnit := by exact_mod_cast quantaPerUnit_pos
  have hValue {numerator denominator : Nat} {value : ℚ}
      (hNumber : (rounded false numerator denominator).HasValue value) :
      value = roundToBits numerator denominator / quantaPerUnit := by
    have hRange : roundToBits numerator denominator < overflowQuanta := by
      by_contra hOut
      obtain ⟨quanta, inRange, fewBits, hSame, -⟩ := hNumber
      rw [rounded, dif_neg hOut] at hSame
      cases hSame
    exact hNumber.unique (hasValue_rounded_of_lt hRange)
  rw [hValue hLess, hValue hMore]
  exact div_le_div_of_nonneg_right (by exact_mod_cast hRounded) hPositive.le

theorem checkFinite_eq_ok {number result : Binary64} (h : checkFinite number = .ok result) :
    result = number := by
  cases number with
  | infinity negative => cases h
  | nan => exact (Except.ok.inj h).symm
  | finite negative quanta inRange fewBits => exact (Except.ok.inj h).symm

/-- Quotients of integers are rounded in their order. -/
theorem le_of_ofQuotient {first second firstDivisor secondDivisor : Int}
    (hFirst : 0 ≤ first) (hSecond : 0 ≤ second) (hFirstDivisor : 0 < firstDivisor)
    (hSecondDivisor : 0 < secondDivisor) (h : first * secondDivisor ≤ second * firstDivisor)
    {less more : Binary64} {lower upper : ℚ} (hLess : ofQuotient first firstDivisor = .ok less)
    (hMore : ofQuotient second secondDivisor = .ok more) (hLower : less.HasValue lower)
    (hUpper : more.HasValue upper) : lower ≤ upper := by
  have hRounded {dividend divisor : Int} {number : Binary64} (hDividend : 0 ≤ dividend)
      (hDivisor : 0 < divisor) (hNumber : ofQuotient dividend divisor = .ok number) :
      number = rounded false (dividend.natAbs * quantaPerUnit) divisor.natAbs := by
    have hNoSign : (decide (dividend < 0) != decide (divisor < 0)) = false := by
      rw [decide_eq_false hDividend.not_gt, decide_eq_false hDivisor.le.not_gt]
      rfl
    rw [ofQuotient, if_neg hDivisor.ne', hNoSign] at hNumber
    exact checkFinite_eq_ok hNumber
  rw [hRounded hFirst hFirstDivisor hLess] at hLower
  rw [hRounded hSecond hSecondDivisor hMore] at hUpper
  refine le_of_hasValue_rounded (by omega) (by omega) ?_ hLower hUpper
  have hCross : first.natAbs * secondDivisor.natAbs ≤ second.natAbs * firstDivisor.natAbs := by
    zify
    rwa [abs_of_nonneg hFirst, abs_of_nonneg hSecond, abs_of_pos hFirstDivisor,
      abs_of_pos hSecondDivisor]
  calc first.natAbs * quantaPerUnit * secondDivisor.natAbs
      = first.natAbs * secondDivisor.natAbs * quantaPerUnit := by ring
    _ ≤ second.natAbs * firstDivisor.natAbs * quantaPerUnit := Nat.mul_le_mul_right _ hCross
    _ = second.natAbs * quantaPerUnit * firstDivisor.natAbs := by ring

/-! ### Integers that are refused -/

section Operations

variable {less more other : Binary64} {first second value lower upper : ℚ}

/-- Products with one number are rounded in the order of the other factors. -/
theorem HasValue.le_of_mul (hLess : less.HasValue first) (hMore : more.HasValue second)
    (hOther : other.HasValue value) (hOrder : first ≤ second)
    (hLower : (less * other).HasValue lower) (hUpper : (more * other).HasValue upper) :
    lower ≤ upper := by
  obtain ⟨lessQuanta, lessRange, lessBits, rfl, rfl⟩ := hLess
  obtain ⟨moreQuanta, moreRange, moreBits, rfl, rfl⟩ := hMore
  obtain ⟨otherQuanta, otherRange, otherBits, rfl, -⟩ := hOther
  have hUnit : (0 : ℚ) < quantaPerUnit := by exact_mod_cast quantaPerUnit_pos
  have hQuanta : lessQuanta ≤ moreQuanta := by
    rw [div_le_div_iff_of_pos_right hUnit] at hOrder
    exact_mod_cast hOrder
  exact le_of_hasValue_rounded quantaPerUnit_pos quantaPerUnit_pos
    (Nat.mul_le_mul_right _ (Nat.mul_le_mul_right _ hQuanta)) hLower hUpper

/-- Quotients by one number are rounded in the order of the dividends. -/
theorem HasValue.le_of_div (hLess : less.HasValue first) (hMore : more.HasValue second)
    (hOther : other.HasValue value) (hPositive : 0 < value) (hOrder : first ≤ second)
    (hLower : (less / other).HasValue lower) (hUpper : (more / other).HasValue upper) :
    lower ≤ upper := by
  obtain ⟨lessQuanta, lessRange, lessBits, rfl, rfl⟩ := hLess
  obtain ⟨moreQuanta, moreRange, moreBits, rfl, rfl⟩ := hMore
  obtain ⟨otherQuanta, otherRange, otherBits, rfl, rfl⟩ := hOther
  have hUnit : (0 : ℚ) < quantaPerUnit := by exact_mod_cast quantaPerUnit_pos
  have hQuanta : lessQuanta ≤ moreQuanta := by
    rw [div_le_div_iff_of_pos_right hUnit] at hOrder
    exact_mod_cast hOrder
  have hOtherQuanta : 0 < otherQuanta := by
    rcases Nat.eq_zero_or_pos otherQuanta with rfl | hOther
    · simp at hPositive
    · exact hOther
  have hQuotient {quanta : Nat} {inRange : quanta < overflowQuanta}
      {fewBits : HasFewBits quanta} :
      finite false quanta inRange fewBits / finite false otherQuanta otherRange otherBits =
        rounded false (quanta * quantaPerUnit) otherQuanta :=
    if_neg hOtherQuanta.ne'
  rw [hQuotient] at hLower hUpper
  exact le_of_hasValue_rounded hOtherQuanta hOtherQuanta
    (Nat.mul_le_mul_right _ (Nat.mul_le_mul_right _ hQuanta)) hLower hUpper

end Operations

/-- Two numbers without a minus sign, in order and at most as great as a bound. -/
def Within (bound : ℚ) (less more : Binary64) : Prop :=
  ∃ first second, less.HasValue first ∧ more.HasValue second ∧ first ≤ second ∧ second ≤ bound

section Within

variable {less more : Binary64}

theorem Within.le {bound : ℚ} (h : Within bound less more) : less.le more = true := by
  obtain ⟨first, second, hFirst, hSecond, hOrder, -⟩ := h
  exact (le_eq_true_iff hFirst.toRat? hSecond.toRat?).mpr hOrder

/-- A sum up to `2 ^ 60` stays in order when numbers in order are added. -/
theorem Within.add {next nextMore : Binary64} (h : Within (2 ^ 60) less more)
    (hNext : Within (2 ^ 7) next nextMore) :
    Within (2 ^ 60) (less + next) (more + nextMore) := by
  obtain ⟨first, second, hFirst, hSecond, hOrder, hBound⟩ := h
  obtain ⟨firstNext, secondNext, hFirstNext, hSecondNext, hNextOrder, hNextBound⟩ := hNext
  obtain ⟨lower, hLower, -⟩ :=
    hFirst.add_le hFirstNext (hOrder.trans hBound) (hNextOrder.trans hNextBound)
  obtain ⟨upper, hUpper, hUpperBound⟩ := hSecond.add_le hSecondNext hBound hNextBound
  refine ⟨lower, upper, hLower, hUpper, ?_, hUpperBound⟩
  obtain ⟨quanta, inRange, fewBits, rfl, rfl⟩ := hFirst
  obtain ⟨quantaMore, inRangeMore, fewBitsMore, rfl, rfl⟩ := hSecond
  obtain ⟨nextQuanta, nextRange, nextBits, rfl, rfl⟩ := hFirstNext
  obtain ⟨nextQuantaMore, nextRangeMore, nextBitsMore, rfl, rfl⟩ := hSecondNext
  have hUnit : (0 : ℚ) < quantaPerUnit := by exact_mod_cast quantaPerUnit_pos
  have hQuanta : quanta + nextQuanta ≤ quantaMore + nextQuantaMore := by
    rw [div_le_div_iff_of_pos_right hUnit] at hOrder hNextOrder
    exact Nat.add_le_add (by exact_mod_cast hOrder) (by exact_mod_cast hNextOrder)
  rw [finite_add_finite] at hLower hUpper
  exact le_of_hasValue_rounded Nat.one_pos Nat.one_pos (Nat.mul_le_mul_right 1 hQuanta) hLower
    hUpper

/-- Sums of lists in order are in order, however long the lists are. -/
theorem Within.foldl_add {numbers numbersMore : List Binary64}
    (h : List.Forall₂ (Within (2 ^ 7)) numbers numbersMore) (hStart : Within (2 ^ 60) less more) :
    Within (2 ^ 60) (numbers.foldl (· + ·) less) (numbersMore.foldl (· + ·) more) := by
  induction h generalizing less more with
  | nil => exact hStart
  | cons hNumber _ ih => exact ih (hStart.add hNumber)

/-- Means of sums in order are in order. -/
theorem Within.div_ofNat {count : Nat} (h : Within (2 ^ 60) less more) (hCount : 0 < count) :
    (less / ofNat count).le (more / ofNat count) = true := by
  obtain ⟨first, second, hFirst, hSecond, hOrder, hBound⟩ := h
  rcases ofNat_eq_infinity_or hCount with hInfinity | ⟨value, hValue, hAtLeast⟩
  · -- A count beyond all finite numbers makes zeros of both.
    rw [hInfinity]
    exact (le_eq_true_iff hFirst.div_infinity.toRat? hSecond.div_infinity.toRat?).mpr le_rfl
  · have hOne : (1 : ℚ) ≤ count := by exact_mod_cast hCount
    have hPositive : 0 < value := by linarith
    have hSmall {dividend : ℚ} (hDividend : dividend ≤ 2 ^ 60) : dividend / value ≤ 2 ^ 64 := by
      rw [div_le_iff₀ hPositive]
      linarith
    obtain ⟨lower, hLower, -⟩ := hFirst.div hValue hPositive (hSmall (hOrder.trans hBound))
    obtain ⟨upper, hUpper, -⟩ := hSecond.div hValue hPositive (hSmall hBound)
    exact (le_eq_true_iff hLower.toRat? hUpper.toRat?).mpr
      (hFirst.le_of_div hSecond hValue hPositive hOrder hLower hUpper)

end Within

/-- What a number reaches, every greater one reaches. -/
theorem le_trans {first second third : Binary64} (h : first.le second = true)
    (hNext : second.le third = true) : first.le third = true := by
  unfold le at h hNext ⊢
  cases hFirst : first.position? with
  | none =>
      rw [hFirst] at h
      cases h
  | some low =>
      cases hSecond : second.position? with
      | none =>
          rw [hFirst, hSecond] at h
          cases h
      | some middle =>
          cases hThird : third.position? with
          | none =>
              rw [hSecond, hThird] at hNext
              cases hNext
          | some high =>
              rw [hFirst, hSecond] at h
              rw [hSecond, hThird] at hNext
              exact decide_eq_true ((of_decide_eq_true h).trans (of_decide_eq_true hNext))

end Binary64

end PatchCoverage
