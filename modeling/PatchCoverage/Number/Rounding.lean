namespace PatchCoverage

/-!
# Rounding quotients of natural numbers

Every rounding of this library is one operation on natural numbers: the
multiple of a step that lies nearest to an exact quotient, where a quotient
half way between two multiples goes to the even one.  This file defines it,
bounds it, and shows that rounding to 53 significant bits gives a number of
at most 53 significant bits.
-/

/-- The natural number nearest to `numerator / denominator`; a half goes to
the even neighbour. -/
def roundHalfEven (numerator denominator : Nat) : Nat :=
  let floor := numerator / denominator
  let rest := numerator % denominator
  if 2 * rest < denominator ∨ (2 * rest = denominator ∧ floor % 2 = 0) then
    floor
  else
    floor + 1

theorem div_le_roundHalfEven (numerator denominator : Nat) :
    numerator / denominator ≤ roundHalfEven numerator denominator := by
  unfold roundHalfEven
  dsimp only
  split <;> omega

theorem roundHalfEven_le_div_add_one (numerator denominator : Nat) :
    roundHalfEven numerator denominator ≤ numerator / denominator + 1 := by
  unfold roundHalfEven
  dsimp only
  split <;> omega

/-- A quotient that is a natural number stays as it is. -/
theorem roundHalfEven_mul_right (value : Nat) {denominator : Nat} (h : 0 < denominator) :
    roundHalfEven (value * denominator) denominator = value := by
  unfold roundHalfEven
  simp [Nat.mul_div_cancel _ h, h]

/-- The distance between neighbouring numbers of 53 significant bits at the
magnitude of `value`. -/
def bitSpacing (value : Nat) : Nat :=
  Nat.pow 2 (value.log2 - 52)

theorem bitSpacing_pos (value : Nat) : 0 < bitSpacing value :=
  Nat.two_pow_pos _

/-- `numerator / denominator` rounded to 53 significant bits, as a natural
number: quotients below `2 ^ 53` are rounded to whole numbers. -/
def roundToBits (numerator denominator : Nat) : Nat :=
  let spacing := bitSpacing (numerator / denominator)
  roundHalfEven numerator (denominator * spacing) * spacing

/-- A number of at most 53 significant bits. -/
def HasFewBits (value : Nat) : Prop :=
  bitSpacing value ∣ value

instance (value : Nat) : Decidable (HasFewBits value) :=
  inferInstanceAs (Decidable (_ ∣ _))

theorem hasFewBits_zero : HasFewBits 0 :=
  ⟨0, by simp⟩

/-- A number of at most 53 bits, shifted to the left, has few bits. -/
theorem hasFewBits_mul_two_pow {mantissa shift : Nat} (h : mantissa ≤ Nat.pow 2 53) :
    HasFewBits (mantissa * Nat.pow 2 shift) := by
  unfold HasFewBits bitSpacing
  simp only [Nat.pow_eq] at h ⊢
  rcases Nat.eq_zero_or_pos mantissa with rfl | positive
  · simp
  rcases Nat.lt_or_eq_of_le h with small | rfl
  · have nonzero : mantissa * 2 ^ shift ≠ 0 :=
      Nat.ne_of_gt (Nat.mul_pos positive (Nat.two_pow_pos _))
    have bound : (mantissa * 2 ^ shift).log2 < 53 + shift := by
      rw [Nat.log2_lt nonzero, Nat.pow_add]
      exact Nat.mul_lt_mul_of_pos_right small (Nat.two_pow_pos _)
    exact Nat.dvd_trans (Nat.pow_dvd_pow 2 (by omega)) (Nat.dvd_mul_left _ _)
  · have power : (2 : Nat) ^ 53 * 2 ^ shift = 2 ^ (53 + shift) := (Nat.pow_add 2 53 shift).symm
    rw [power, Nat.log2_two_pow]
    exact Nat.pow_dvd_pow 2 (by omega)

/-- Rounding to 53 significant bits gives a number of few bits. -/
theorem hasFewBits_roundToBits (numerator denominator : Nat) :
    HasFewBits (roundToBits numerator denominator) := by
  unfold roundToBits bitSpacing
  apply hasFewBits_mul_two_pow
  apply Nat.le_trans (roundHalfEven_le_div_add_one _ _)
  rw [← Nat.div_div_eq_div_mul]
  generalize numerator / denominator = quotient
  apply Nat.div_lt_of_lt_mul
  rcases Nat.eq_zero_or_pos quotient with rfl | positive
  · simp
  have upper : quotient < 2 ^ (quotient.log2 + 1) := Nat.lt_log2_self
  apply Nat.lt_of_lt_of_le upper
  rw [Nat.pow_eq, Nat.pow_eq, ← Nat.pow_add]
  exact Nat.pow_le_pow_right (by omega) (by omega)

end PatchCoverage
