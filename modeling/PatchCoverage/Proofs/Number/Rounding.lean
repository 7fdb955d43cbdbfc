import Mathlib.Algebra.Order.Field.Rat
import Mathlib.Data.Nat.Cast.Order.Field
import Mathlib.Tactic.FieldSimp
import Mathlib.Tactic.Linarith
import Mathlib.Tactic.Positivity
import Mathlib.Tactic.Ring
import PatchCoverage.Number.Rounding

namespace PatchCoverage

/-!
# How far rounding goes

A quotient is at most half a step away from the multiple of the step that it is
rounded to.  For 53 significant bits the step is one, or at most the quotient
divided by `2 ^ 52`, so the distance is bounded by `unitRoundoff` times the
quotient, and by one half more where the quotient is small.  A natural number
is never too small to be rounded without the extra half, and stays as it is if
it has few bits.

Adding much less than the step to a power of two changes nothing.  A quotient that is
close enough to a number of few bits is rounded to that number.
-/

/-- The largest relative error of one rounding to 53 significant bits. -/
def unitRoundoff : ℚ := 1 / 2 ^ 53

theorem unitRoundoff_pos : 0 < unitRoundoff := by
  unfold unitRoundoff
  positivity

/-- The nearest natural number is at most one half away. -/
theorem abs_roundHalfEven_sub_le (numerator : Nat) {denominator : Nat} (h : 0 < denominator) :
    |(roundHalfEven numerator denominator : ℚ) - numerator / denominator| ≤ 1 / 2 := by
  have hDivision : denominator * (numerator / denominator) + numerator % denominator =
      numerator := Nat.div_add_mod _ _
  have hRest : numerator % denominator < denominator := Nat.mod_lt _ h
  have hBounds : 2 * numerator ≤ 2 * (denominator * roundHalfEven numerator denominator) +
        denominator ∧
      2 * (denominator * roundHalfEven numerator denominator) ≤
        2 * numerator + denominator := by
    unfold roundHalfEven
    dsimp only
    split
    · omega
    · rw [Nat.mul_add]
      omega
  generalize roundHalfEven numerator denominator = nearest at hBounds
  have hPositive : (0 : ℚ) < denominator := by exact_mod_cast h
  have hUpper : (2 * numerator : ℚ) ≤ 2 * (denominator * nearest) + denominator := by
    exact_mod_cast hBounds.1
  have hLower : (2 * (denominator * nearest) : ℚ) ≤ 2 * numerator + denominator := by
    exact_mod_cast hBounds.2
  have hScaled : (nearest : ℚ) - numerator / denominator =
      (denominator * nearest - numerator) / denominator := by
    field_simp
  rw [hScaled, abs_div, abs_of_pos hPositive, div_le_iff₀ hPositive, abs_le]
  constructor <;> linarith

/-- No natural number is nearer than the nearest one. -/
theorem abs_roundHalfEven_sub_le_abs_sub (numerator other : Nat) {denominator : Nat}
    (h : 0 < denominator) :
    |(roundHalfEven numerator denominator : ℚ) - numerator / denominator| ≤
      |(other : ℚ) - numerator / denominator| := by
  have hNearest := abs_roundHalfEven_sub_le numerator h
  by_cases hSame : other = roundHalfEven numerator denominator
  · rw [hSame]
  · have hApart : (1 : ℚ) ≤ |(other : ℚ) - roundHalfEven numerator denominator| := by
      have hInt : (1 : ℤ) ≤ |(other : ℤ) - roundHalfEven numerator denominator| :=
        Int.one_le_abs (by omega)
      exact_mod_cast hInt
    have hTriangle := abs_sub_le (other : ℚ) (numerator / denominator)
      (roundHalfEven numerator denominator)
    rw [abs_sub_comm (numerator / denominator : ℚ)] at hTriangle
    linarith

/-- The nearest multiple of a step is at most half a step away. -/
theorem abs_roundHalfEven_mul_sub_le (numerator : Nat) {denominator step : Nat}
    (hDenominator : 0 < denominator) (hStep : 0 < step) :
    |((roundHalfEven numerator (denominator * step) * step : Nat) : ℚ) -
      numerator / denominator| ≤ step / 2 := by
  have hPositive : (0 : ℚ) < step := by exact_mod_cast hStep
  have hScaled : ((roundHalfEven numerator (denominator * step) * step : Nat) : ℚ) -
      numerator / denominator =
      (roundHalfEven numerator (denominator * step) -
        numerator / (denominator * step : Nat)) * step := by
    push_cast
    field_simp
  rw [hScaled, abs_mul, abs_of_pos hPositive]
  calc _ ≤ 1 / 2 * (step : ℚ) :=
        mul_le_mul_of_nonneg_right
          (abs_roundHalfEven_sub_le numerator (Nat.mul_pos hDenominator hStep)) hPositive.le
    _ = step / 2 := by ring

/-- Neighbouring numbers of 53 significant bits are one apart, or at most the
number divided by `2 ^ 52`. -/
theorem bitSpacing_eq_one_or (value : Nat) :
    bitSpacing value = 1 ∨ bitSpacing value * 2 ^ 52 ≤ value := by
  unfold bitSpacing
  rw [Nat.pow_eq]
  rcases Nat.lt_or_ge value.log2 52 with hSmall | hLarge
  · left
    rw [Nat.sub_eq_zero_of_le hSmall.le, pow_zero]
  · right
    have hNonzero : value ≠ 0 := by
      rintro rfl
      simp at hLarge
    rw [← pow_add, Nat.sub_add_cancel hLarge]
    exact Nat.log2_self_le hNonzero

/-- A quotient rounded to 53 significant bits. -/
theorem abs_roundToBits_sub_le (numerator : Nat) {denominator : Nat} (h : 0 < denominator) :
    |(roundToBits numerator denominator : ℚ) - numerator / denominator| ≤
      unitRoundoff * (numerator / denominator) + 1 / 2 := by
  have hNear := abs_roundHalfEven_mul_sub_le numerator h
    (bitSpacing_pos (numerator / denominator))
  have hQuotient : (0 : ℚ) ≤ numerator / denominator := by positivity
  rcases bitSpacing_eq_one_or (numerator / denominator) with hOne | hSpacing
  · have hExtra : 0 ≤ unitRoundoff * ((numerator : ℚ) / denominator) :=
      mul_nonneg unitRoundoff_pos.le hQuotient
    unfold roundToBits
    dsimp only
    rw [hOne] at hNear ⊢
    push_cast at hNear ⊢
    linarith
  · have hStep : (bitSpacing (numerator / denominator) : ℚ) * 2 ^ 52 ≤
        numerator / denominator := by
      calc (bitSpacing (numerator / denominator) : ℚ) * 2 ^ 52
          ≤ (numerator / denominator : Nat) := by exact_mod_cast hSpacing
        _ ≤ numerator / denominator := Nat.cast_div_le
    unfold roundToBits
    refine hNear.trans ?_
    unfold unitRoundoff
    linarith

/-- A natural number rounded to 53 significant bits. -/
theorem abs_roundToBits_one_sub_le (value : Nat) :
    |(roundToBits value 1 : ℚ) - value| ≤ unitRoundoff * value := by
  have hNear := abs_roundHalfEven_mul_sub_le value Nat.one_pos (bitSpacing_pos value)
  unfold roundToBits
  rw [Nat.div_one]
  rcases bitSpacing_eq_one_or value with hOne | hSpacing
  · have hSame : roundHalfEven value (1 * 1) = value := by
      simpa using roundHalfEven_mul_right value Nat.one_pos
    have hExtra : 0 ≤ unitRoundoff * (value : ℚ) :=
      mul_nonneg unitRoundoff_pos.le (Nat.cast_nonneg value)
    dsimp only
    rw [hOne, hSame]
    simpa using hExtra
  · have hStep : (bitSpacing value : ℚ) * 2 ^ 52 ≤ value := by exact_mod_cast hSpacing
    rw [Nat.cast_one, div_one] at hNear
    refine hNear.trans ?_
    unfold unitRoundoff
    linarith

/-- A natural number of few bits stays as it is. -/
theorem roundToBits_of_hasFewBits {value : Nat} (h : HasFewBits value) :
    roundToBits value 1 = value := by
  obtain ⟨count, hCount⟩ := h
  unfold roundToBits
  dsimp only
  rw [Nat.div_one, Nat.one_mul]
  calc roundHalfEven value (bitSpacing value) * bitSpacing value
      = roundHalfEven (count * bitSpacing value) (bitSpacing value) * bitSpacing value := by
        rw [Nat.mul_comm count, ← hCount]
    _ = count * bitSpacing value := by
        rw [roundHalfEven_mul_right count (bitSpacing_pos value)]
    _ = value := by rw [Nat.mul_comm, ← hCount]

/-- A quotient that is at most one half above an even number is not rounded
above it. -/
theorem roundHalfEven_le_of_even {numerator denominator bound : Nat} (h : 0 < denominator)
    (hEven : bound % 2 = 0) (hUpper : 2 * numerator ≤ (2 * bound + 1) * denominator) :
    roundHalfEven numerator denominator ≤ bound := by
  have hDivision : denominator * (numerator / denominator) + numerator % denominator =
      numerator := Nat.div_add_mod _ _
  have hFloor : numerator / denominator ≤ bound := by
    rw [← Nat.lt_succ_iff, Nat.div_lt_iff_lt_mul h]
    linarith
  unfold roundHalfEven
  dsimp only
  rcases Nat.lt_or_eq_of_le hFloor with hBelow | hSame
  · split <;> omega
  · -- At the bound itself a half goes down, because the bound is even.
    rw [hSame] at hDivision ⊢
    have hRest : 2 * (numerator % denominator) ≤ denominator := by linarith
    rw [if_pos (by omega)]

/-- A power of two of more than 53 bits is not left by adding half the distance
to its neighbour. -/
theorem roundToBits_le_two_pow {value exponent : Nat}
    (h : value ≤ 2 ^ (exponent + 53) + 2 ^ exponent) :
    roundToBits value 1 ≤ 2 ^ (exponent + 53) := by
  unfold roundToBits
  dsimp only
  rw [Nat.div_one, Nat.one_mul]
  rcases Nat.eq_zero_or_pos value with rfl | hPositive
  · simp [roundHalfEven, bitSpacing_pos]
  have hBelow : value < 2 ^ (exponent + 54) := by
    have hSmaller : 2 ^ exponent < 2 ^ (exponent + 53) :=
      Nat.pow_lt_pow_right (by omega) (by omega)
    rw [show exponent + 54 = exponent + 53 + 1 by omega, Nat.pow_succ]
    omega
  have hLog : value.log2 < exponent + 54 := (Nat.log2_lt hPositive.ne').mpr hBelow
  have hSpacing : 2 ^ (exponent + 53 - (value.log2 - 52)) * bitSpacing value =
      2 ^ (exponent + 53) := by
    unfold bitSpacing
    rw [Nat.pow_eq, ← Nat.pow_add, Nat.sub_add_cancel (by omega)]
  -- In steps of the spacing the power is an even number, so the lemma above applies.
  rw [← hSpacing]
  refine Nat.mul_le_mul_right _ (roundHalfEven_le_of_even (bitSpacing_pos value) ?_ ?_)
  · rw [show exponent + 53 - (value.log2 - 52) = exponent + 52 - (value.log2 - 52) + 1 by omega,
      Nat.pow_succ, Nat.mul_mod_left]
  · rw [Nat.add_mul, Nat.mul_assoc, hSpacing, Nat.one_mul]
    rcases Nat.lt_or_ge value.log2 (exponent + 53) with hLower | hTop
    · have hUpper : value < 2 ^ (exponent + 53) := (Nat.log2_lt hPositive.ne').mp hLower
      linarith [bitSpacing_pos value]
    · have hStep : bitSpacing value = 2 ^ exponent * 2 := by
        unfold bitSpacing
        rw [Nat.pow_eq, show value.log2 - 52 = exponent + 1 by omega, Nat.pow_succ]
      linarith

/-! ## Numbers close to a quotient -/

theorem lt_mul_bitSpacing (value : Nat) : value < 2 ^ 53 * bitSpacing value := by
  unfold bitSpacing
  rw [Nat.pow_eq, ← Nat.pow_add]
  exact Nat.lt_log2_self.trans_le (Nat.pow_le_pow_right (by decide) (by omega))

/-- The spacing at a number divides the spacing at another one unless the number is out of
the reach of that one. -/
theorem bitSpacing_dvd_bitSpacing {value other : Nat} (h : value < 2 ^ 53 * bitSpacing other) :
    bitSpacing value ∣ bitSpacing other := by
  unfold bitSpacing at h ⊢
  rw [Nat.pow_eq] at h
  rw [Nat.pow_eq, Nat.pow_eq]
  refine Nat.pow_dvd_pow 2 ?_
  rcases Nat.eq_zero_or_pos value with rfl | hPositive
  · simp
  · rw [← Nat.pow_add, ← Nat.log2_lt hPositive.ne'] at h
    omega

/-- A quotient less than half a step from a multiple of the step is rounded to it. -/
theorem roundHalfEven_eq_of_abs_sub_lt {numerator denominator count : Nat} (h : 0 < denominator)
    (hNear : |(numerator : ℚ) / denominator - count| < 1 / 2) :
    roundHalfEven numerator denominator = count := by
  have hRounded := abs_roundHalfEven_sub_le numerator h
  have hApart : |(roundHalfEven numerator denominator : ℚ) - count| < 1 := by
    rw [abs_lt] at hNear ⊢
    rw [abs_le] at hRounded
    constructor <;> linarith
  have hInt : |(roundHalfEven numerator denominator : ℤ) - count| < 1 := by exact_mod_cast hApart
  rw [Int.abs_lt_one_iff] at hInt
  omega

/-- A quotient less than half a spacing from a multiple of the spacing is rounded to it. -/
theorem roundToBits_eq_of_abs_sub_lt {numerator denominator count : Nat} (h : 0 < denominator)
    (hNear : |(numerator : ℚ) / denominator - bitSpacing (numerator / denominator) * count| <
      bitSpacing (numerator / denominator) / 2) :
    roundToBits numerator denominator = bitSpacing (numerator / denominator) * count := by
  have hStep : (0 : ℚ) < bitSpacing (numerator / denominator) := by
    exact_mod_cast bitSpacing_pos (numerator / denominator)
  have hRounded : roundHalfEven numerator
      (denominator * bitSpacing (numerator / denominator)) = count := by
    refine roundHalfEven_eq_of_abs_sub_lt (Nat.mul_pos h (bitSpacing_pos _)) ?_
    have hScaled : (numerator : ℚ) / (denominator * bitSpacing (numerator / denominator) : Nat) -
        count = (numerator / denominator - bitSpacing (numerator / denominator) * count) /
          bitSpacing (numerator / denominator) := by
      push_cast
      field_simp
    rw [hScaled, abs_div, abs_of_pos hStep, div_lt_iff₀ hStep]
    linarith
  unfold roundToBits
  dsimp only
  rw [hRounded, Nat.mul_comm]

/-- The spacing at a quotient divides a number of few bits, also where the quotient is just
below a power of two and its spacing is half of that at the number. -/
theorem bitSpacing_dvd_of_lt {quotient value : Nat} (hBits : HasFewBits value)
    (h : quotient < value + bitSpacing value) : bitSpacing quotient ∣ value := by
  obtain ⟨steps, hSteps⟩ := id hBits
  have hUpper := lt_mul_bitSpacing value
  refine Nat.dvd_trans (bitSpacing_dvd_bitSpacing (h.trans_le ?_)) hBits
  generalize bitSpacing value = spacing at hSteps hUpper
  have hFewSteps : steps + 1 ≤ 2 ^ 53 := by
    rw [hSteps, Nat.mul_comm] at hUpper
    exact Nat.lt_of_mul_lt_mul_right hUpper
  calc value + spacing = (steps + 1) * spacing := by rw [hSteps]; ring
    _ ≤ 2 ^ 53 * spacing := Nat.mul_le_mul_right _ hFewSteps

/-- A quotient that is closer to a number of few bits than the number divided by `2 ^ 54`
is rounded to it. -/
theorem roundToBits_eq_of_near {numerator denominator value : Nat} (h : 0 < denominator)
    (hBits : HasFewBits value)
    (hNear : |(numerator : ℚ) / denominator - value| * 2 ^ 54 < value) :
    roundToBits numerator denominator = value := by
  have hDenominator : (0 : ℚ) < denominator := by exact_mod_cast h
  have hClose : |(numerator : ℚ) / denominator - value| < value / 2 ^ 54 :=
    (lt_div_iff₀ (by positivity)).mpr hNear
  obtain ⟨hBelow, hAbove⟩ := abs_lt.mp hClose
  have hFloor : ((numerator / denominator : Nat) : ℚ) ≤ numerator / denominator := Nat.cast_div_le
  have hCeil : (numerator : ℚ) / denominator < (numerator / denominator : Nat) + 1 := by
    rw [div_lt_iff₀' hDenominator]
    exact_mod_cast Nat.lt_mul_div_succ numerator h
  have hUpper : ((numerator / denominator : Nat) : ℚ) + 1 ≤
      2 ^ 53 * bitSpacing (numerator / denominator) := by
    exact_mod_cast lt_mul_bitSpacing (numerator / denominator)
  obtain ⟨count, hCount⟩ : bitSpacing (numerator / denominator) ∣ value := by
    refine bitSpacing_dvd_of_lt hBits ?_
    have hValue : (value : ℚ) < 2 ^ 53 * bitSpacing value := by
      exact_mod_cast lt_mul_bitSpacing value
    have hLess : ((numerator / denominator : Nat) : ℚ) < (value + bitSpacing value : Nat) := by
      push_cast
      linarith
    exact_mod_cast hLess
  have hValue : (value : ℚ) = bitSpacing (numerator / denominator) * count := by
    exact_mod_cast hCount
  -- The number is at most `2 ^ 53` such spacings, so that the distance is less than half a one.
  have hFew : (count : ℚ) ≤ 2 ^ 53 := by
    have hStep : (0 : ℚ) < bitSpacing (numerator / denominator) := by
      exact_mod_cast bitSpacing_pos (numerator / denominator)
    have hLess : (bitSpacing (numerator / denominator) : ℚ) * count <
        bitSpacing (numerator / denominator) * (2 ^ 53 + 1) := by
      linarith
    have hCountLess := lt_of_mul_lt_mul_left hLess hStep.le
    have hNat : count < 2 ^ 53 + 1 := by exact_mod_cast hCountLess
    exact_mod_cast Nat.le_of_lt_succ hNat
  have hHalf : (bitSpacing (numerator / denominator) : ℚ) * count ≤
      bitSpacing (numerator / denominator) * 2 ^ 53 :=
    mul_le_mul_of_nonneg_left hFew (Nat.cast_nonneg _)
  rw [hCount]
  refine roundToBits_eq_of_abs_sub_lt h ?_
  rw [hValue] at hClose
  linarith

end PatchCoverage
