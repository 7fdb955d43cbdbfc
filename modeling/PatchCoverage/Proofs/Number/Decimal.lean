import PatchCoverage.Proofs.Number.Integer
import PatchCoverage.Proofs.Number.Monotone

namespace PatchCoverage

/-!
# What decimals are rounded to

A decimal is a natural number times a power of ten.  As an exact count of quanta it is a
rational number, and the number that it is read as depends on that count alone
(`ofDecimal_congr`) and keeps its order (`roundedDecimal_le_roundedDecimal`).

A reader does not work out powers of ten far beyond either end of the range.  What it
answers instead is what rounding would have come to (`toBinary64_eq_ofDecimal`).  Rounding
to two places, the other way to a decimal, does not leave the range
(`isFinite_roundedToHundredths`).
-/

/-! ## The value of digits -/

section Digits

variable {digits : List Char}

theorem digitsValue_eq_ofDigitChars (digits : List Char) :
    digitsValue digits = Nat.ofDigitChars 10 digits 0 := by
  rw [digitsValue, Nat.ofDigitChars_eq_foldl]
  simp only [Nat.mul_comm 10]
  rfl

theorem digitsValue_decimalDigits (value : Nat) : digitsValue (decimalDigits value) = value := by
  rw [digitsValue_eq_ofDigitChars, decimalDigits, Nat.ofDigitChars_ten_toDigits]

theorem isDigit_decimalDigits (value : Nat) : ∀ c ∈ decimalDigits value, c.isDigit = true :=
  fun _ => Nat.isDigit_of_mem_toDigits (n := value) (by decide : 0 < 10) le_rfl

theorem digitsValue_append (front back : List Char) :
    digitsValue (front ++ back) = digitsValue front * 10 ^ back.length + digitsValue back := by
  simp only [digitsValue_eq_ofDigitChars]
  rw [Nat.ofDigitChars_append, Nat.ofDigitChars_eq_ofDigitChars_zero, Nat.mul_comm]

theorem digitsValue_append_zeros (front : List Char) (count : Nat) :
    digitsValue (front ++ List.replicate count '0') = digitsValue front * 10 ^ count := by
  simp only [digitsValue_eq_ofDigitChars]
  rw [Nat.ofDigitChars_append, Nat.ofDigitChars_replicate_zero, Nat.mul_comm]

theorem digitsValue_zeros_append (count : Nat) (back : List Char) :
    digitsValue (List.replicate count '0' ++ back) = digitsValue back := by
  simp only [digitsValue_eq_ofDigitChars]
  rw [Nat.ofDigitChars_append, Nat.ofDigitChars_replicate_zero, Nat.mul_zero]

theorem digitsValue_dropWhile_zero (digits : List Char) :
    digitsValue (digits.dropWhile (· == '0')) = digitsValue digits := by
  induction digits with
  | nil => rfl
  | cons c rest ih =>
      rw [List.dropWhile_cons]
      split
      · next hZero =>
        rw [ih, beq_iff_eq.mp hZero, ← List.singleton_append, digitsValue_append]
        exact ((congrArg (· + _) (Nat.zero_mul _)).trans (Nat.zero_add _)).symm
      · rfl

/-- Digits stand for less than the next power of ten. -/
theorem digitsValue_lt (h : ∀ c ∈ digits, c.isDigit = true) :
    digitsValue digits < 10 ^ digits.length := by
  induction digits with
  | nil => exact Nat.one_pos
  | cons c rest ih =>
      obtain ⟨hDigit, hRest⟩ := List.forall_mem_cons.mp h
      have hValue := ih hRest
      obtain ⟨hLow, hHigh⟩ := toNat_of_isDigit hDigit
      have hFirst : digitsValue [c] ≤ 9 := by
        change 0 * 10 + (c.toNat - 48) ≤ 9
        omega
      rw [← List.singleton_append, digitsValue_append, List.singleton_append, List.length_cons,
        Nat.pow_succ]
      have hScaled := Nat.mul_le_mul_right (10 ^ rest.length) hFirst
      omega

/-- Digits without a zero in front stand for at least the power of ten of the first. -/
theorem ten_pow_le_digitsValue {c : Char} {rest : List Char} (hDigit : c.isDigit = true)
    (hZero : c ≠ '0') : 10 ^ rest.length ≤ digitsValue (c :: rest) := by
  have hFirst : 1 ≤ digitsValue [c] := by
    obtain ⟨hLow, -⟩ := toNat_of_isDigit hDigit
    have hNe : c.toNat ≠ 48 := fun hSame => hZero (Char.ext (UInt32.toNat.inj hSame))
    change 1 ≤ 0 * 10 + (c.toNat - 48)
    omega
  rw [← List.singleton_append, digitsValue_append]
  exact (Nat.le_mul_of_pos_left _ hFirst).trans (Nat.le_add_right _ _)

end Digits

namespace Binary64

/-- A tenth to a power of at most 331 is less than a quarter of the least number. -/
theorem exists_four_mul_quantaPerUnit_le :
    ∃ power, power ≤ 331 ∧ 4 * quantaPerUnit ≤ Nat.pow 10 power :=
  ⟨331, le_rfl, by decide +kernel⟩

-- As for the values themselves, nothing below may unfold the two counts.
attribute [local irreducible] quantaPerUnit overflowQuanta

/-! ## Decimals in quanta -/

/-- A decimal as an exact count of quanta. -/
def decimalQuanta (mantissa : Nat) (exponent : Int) : ℚ :=
  mantissa * 10 ^ exponent * quantaPerUnit

/-- The count of quanta that a decimal is rounded to. -/
def roundedDecimal (mantissa : Nat) (exponent : Int) : Nat :=
  let fraction := decimalFraction mantissa exponent
  roundToBits fraction.1 fraction.2

theorem quantaPerUnit_pos_rat : (0 : ℚ) < quantaPerUnit := by
  exact_mod_cast quantaPerUnit_pos

section Decimals

variable {mantissa other quanta : Nat} {exponent otherExponent : Int}

theorem decimalFraction_pos (mantissa : Nat) (exponent : Int) :
    0 < (decimalFraction mantissa exponent).2 := by
  cases exponent with
  | ofNat power => exact Nat.one_pos
  | negSucc power => exact Nat.pow_pos (by decide)

theorem decimalFraction_eq (mantissa : Nat) (exponent : Int) :
    ((decimalFraction mantissa exponent).1 : ℚ) / (decimalFraction mantissa exponent).2 =
      decimalQuanta mantissa exponent := by
  cases exponent with
  | ofNat power => simp [decimalFraction, decimalQuanta]
  | negSucc power =>
      simp only [decimalFraction, decimalQuanta, Nat.pow_eq, zpow_negSucc]
      push_cast
      field_simp

/-- Decimals are rounded in their order. -/
theorem roundedDecimal_le_roundedDecimal
    (h : decimalQuanta mantissa exponent ≤ decimalQuanta other otherExponent) :
    roundedDecimal mantissa exponent ≤ roundedDecimal other otherExponent := by
  have hFirst := decimalFraction_pos mantissa exponent
  have hSecond := decimalFraction_pos other otherExponent
  rw [← decimalFraction_eq, ← decimalFraction_eq,
    div_le_div_iff₀ (by exact_mod_cast hFirst) (by exact_mod_cast hSecond)] at h
  exact roundToBits_le_roundToBits hFirst hSecond (by exact_mod_cast h)

theorem roundedDecimal_congr
    (h : decimalQuanta mantissa exponent = decimalQuanta other otherExponent) :
    roundedDecimal mantissa exponent = roundedDecimal other otherExponent :=
  Nat.le_antisymm (roundedDecimal_le_roundedDecimal h.le) (roundedDecimal_le_roundedDecimal h.ge)

/-- A decimal that is at most a number of few bits is not rounded above it. -/
theorem roundedDecimal_le (hBits : HasFewBits quanta)
    (h : decimalQuanta mantissa exponent ≤ quanta) : roundedDecimal mantissa exponent ≤ quanta := by
  have hPositive := decimalFraction_pos mantissa exponent
  rw [← decimalFraction_eq, div_le_iff₀ (by exact_mod_cast hPositive)] at h
  calc roundedDecimal mantissa exponent ≤ roundToBits quanta 1 :=
        roundToBits_le_roundToBits hPositive Nat.one_pos (by
          rw [Nat.mul_one]
          exact_mod_cast h)
    _ = quanta := roundToBits_of_hasFewBits hBits

/-- A decimal that is at least a number of few bits is not rounded below it. -/
theorem le_roundedDecimal (hBits : HasFewBits quanta)
    (h : quanta ≤ decimalQuanta mantissa exponent) : quanta ≤ roundedDecimal mantissa exponent := by
  have hPositive := decimalFraction_pos mantissa exponent
  rw [← decimalFraction_eq, le_div_iff₀ (by exact_mod_cast hPositive)] at h
  calc quanta = roundToBits quanta 1 := (roundToBits_of_hasFewBits hBits).symm
    _ ≤ roundedDecimal mantissa exponent :=
        roundToBits_le_roundToBits Nat.one_pos hPositive (by
          rw [Nat.mul_one]
          exact_mod_cast h)

theorem decimalQuanta_le_decimalQuanta_iff :
    decimalQuanta mantissa exponent ≤ decimalQuanta other exponent ↔ mantissa ≤ other := by
  have hScale : (0 : ℚ) < 10 ^ exponent * quantaPerUnit :=
    mul_pos (zpow_pos (by norm_num) exponent) quantaPerUnit_pos_rat
  rw [decimalQuanta, decimalQuanta, mul_assoc, mul_assoc, mul_le_mul_iff_left₀ hScale, Nat.cast_le]

theorem decimalQuanta_lt_decimalQuanta_iff {other : Nat} :
    decimalQuanta mantissa exponent < decimalQuanta other exponent ↔ mantissa < other := by
  rw [← not_le, decimalQuanta_le_decimalQuanta_iff, Nat.not_le]

theorem decimalQuanta_eq_mul (mantissa : Nat) (exponent : Int) :
    decimalQuanta mantissa exponent = decimalQuanta 1 exponent * mantissa := by
  rw [decimalQuanta, decimalQuanta]
  push_cast
  ring

theorem decimalQuanta_one_pos (exponent : Int) : 0 < decimalQuanta 1 exponent := by
  rw [decimalQuanta, Nat.cast_one, one_mul]
  exact mul_pos (zpow_pos (by norm_num) exponent) quantaPerUnit_pos_rat

theorem decimalQuanta_mul_ten_pow (mantissa power : Nat) (exponent : Int) :
    decimalQuanta (mantissa * 10 ^ power) exponent = decimalQuanta mantissa (exponent + power) := by
  rw [decimalQuanta, decimalQuanta, zpow_add₀ (by norm_num), zpow_natCast]
  push_cast
  ring

/-- A decimal can be written at every lesser exponent. -/
theorem exists_decimalQuanta_eq (mantissa : Nat) (h : exponent ≤ otherExponent) :
    ∃ other, decimalQuanta other exponent = decimalQuanta mantissa otherExponent := by
  obtain ⟨power, hPower⟩ := Int.eq_ofNat_of_zero_le (Int.sub_nonneg.mpr h)
  refine ⟨mantissa * 10 ^ power, ?_⟩
  rw [decimalQuanta_mul_ten_pow]
  congr 1
  omega

theorem decimalQuanta_one_le_decimalQuanta_one (h : exponent ≤ otherExponent) :
    decimalQuanta 1 exponent ≤ decimalQuanta 1 otherExponent := by
  rw [decimalQuanta, decimalQuanta, Nat.cast_one, one_mul, one_mul]
  exact mul_le_mul_of_nonneg_right (zpow_le_zpow_right₀ (by norm_num) h) quantaPerUnit_pos_rat.le

/-- A decimal is at most the power of ten above its first digit. -/
theorem decimalQuanta_le_decimalQuanta_one {count : Nat} (hMantissa : mantissa ≤ 10 ^ count)
    (hExponent : exponent + count ≤ otherExponent) :
    decimalQuanta mantissa exponent ≤ decimalQuanta 1 otherExponent := by
  calc decimalQuanta mantissa exponent
      ≤ decimalQuanta (1 * 10 ^ count) exponent := by
        rwa [decimalQuanta_le_decimalQuanta_iff, Nat.one_mul]
    _ = decimalQuanta 1 (exponent + count) := decimalQuanta_mul_ten_pow 1 count exponent
    _ ≤ decimalQuanta 1 otherExponent := decimalQuanta_one_le_decimalQuanta_one hExponent

theorem readsBack_eq_true_iff :
    readsBack quanta mantissa exponent = true ↔ roundedDecimal mantissa exponent = quanta := by
  rw [readsBack, beq_iff_eq]
  rfl

/-- A decimal is read as the number that it is rounded to. -/
theorem ofDecimal_eq_rounded (negative : Bool) (mantissa : Nat) (exponent : Int) :
    ofDecimal negative mantissa exponent =
      rounded negative (decimalFraction mantissa exponent).1
        (decimalFraction mantissa exponent).2 := by
  cases exponent <;> rfl

theorem ofDecimal_eq_finite_iff {negative : Bool} {inRange : quanta < overflowQuanta}
    {fewBits : HasFewBits quanta} :
    ofDecimal negative mantissa exponent = finite negative quanta inRange fewBits ↔
      roundedDecimal mantissa exponent = quanta := by
  rw [ofDecimal_eq_rounded, rounded]
  constructor
  · intro h
    split at h
    · exact (finite.inj h).2
    · cases h
  · rintro rfl
    exact dif_pos inRange

/-- Numbers of the same sign are the same if they are rounded to the same count. -/
theorem ofDecimal_eq_of_roundedDecimal_eq (negative : Bool)
    (h : roundedDecimal mantissa exponent = roundedDecimal other otherExponent) :
    ofDecimal negative mantissa exponent = ofDecimal negative other otherExponent := by
  simp only [roundedDecimal] at h
  rw [ofDecimal_eq_rounded, ofDecimal_eq_rounded, rounded, rounded]
  simp only [h]

theorem ofDecimal_congr (negative : Bool)
    (h : decimalQuanta mantissa exponent = decimalQuanta other otherExponent) :
    ofDecimal negative mantissa exponent = ofDecimal negative other otherExponent :=
  ofDecimal_eq_of_roundedDecimal_eq negative (roundedDecimal_congr h)

end Decimals

/-! ## Reading -/

theorem roundedDecimal_zero (exponent : Int) : roundedDecimal 0 exponent = 0 :=
  Nat.le_zero.mp (roundedDecimal_le hasFewBits_zero (by simp [decimalQuanta]))

/-- Far below the least number everything is rounded to zero. -/
theorem roundedDecimal_eq_zero {mantissa : Nat} {exponent : Int}
    (h : decimalQuanta mantissa exponent ≤ 1 / 4) : roundedDecimal mantissa exponent = 0 := by
  have hNear := abs_roundToBits_sub_le (decimalFraction mantissa exponent).1
    (decimalFraction_pos mantissa exponent)
  rw [decimalFraction_eq] at hNear
  have hUpper := (abs_le.mp hNear).2
  have hLess : (roundedDecimal mantissa exponent : ℚ) < 1 := by
    unfold unitRoundoff at hUpper
    change (roundedDecimal mantissa exponent : ℚ) - _ ≤ _ at hUpper
    linarith
  exact Nat.lt_one_iff.mp (by exact_mod_cast hLess)

theorem decimalQuanta_one_le_quarter {power : Nat} (h : 4 * quantaPerUnit ≤ Nat.pow 10 power) :
    decimalQuanta 1 (-(power : ℤ)) ≤ 1 / 4 := by
  have hQuanta : (4 : ℚ) * quantaPerUnit ≤ 10 ^ power := by exact_mod_cast h
  rw [decimalQuanta, Nat.cast_one, one_mul, zpow_neg, zpow_natCast,
    inv_mul_le_iff₀ (by positivity), mul_one_div, le_div_iff₀ (by norm_num), mul_comm]
  exact hQuanta

theorem overflowQuanta_le_roundedDecimal : overflowQuanta ≤ roundedDecimal 1 310 := by
  decide +kernel

theorem ofDecimal_eq_infinity {negative : Bool} {mantissa : Nat} {exponent : Int}
    (h : overflowQuanta ≤ roundedDecimal mantissa exponent) :
    ofDecimal negative mantissa exponent = infinity negative := by
  rw [ofDecimal_eq_rounded]
  exact dif_neg (Nat.not_lt.mpr h)

/-- A decimal whose first digit stands far behind the point is rounded to zero. -/
theorem roundedDecimal_eq_zero_of_lt {mantissa count : Nat} {exponent : Int}
    (hMost : mantissa < 10 ^ count) (hSmall : exponent + count < -330) :
    roundedDecimal mantissa exponent = 0 := by
  obtain ⟨power, hPower, hQuarter⟩ := exists_four_mul_quantaPerUnit_le
  refine roundedDecimal_eq_zero ?_
  calc decimalQuanta mantissa exponent
      ≤ decimalQuanta 1 (-(power : ℤ)) := decimalQuanta_le_decimalQuanta_one hMost.le (by omega)
    _ ≤ 1 / 4 := decimalQuanta_one_le_quarter hQuarter

/-- A decimal whose first digit stands far in front of the point is out of range. -/
theorem overflowQuanta_le_roundedDecimal_of_le {mantissa count : Nat} {exponent : Int}
    (hLeast : 10 ^ count ≤ mantissa) (hLarge : 310 ≤ exponent + count) :
    overflowQuanta ≤ roundedDecimal mantissa exponent := by
  refine overflowQuanta_le_roundedDecimal.trans (roundedDecimal_le_roundedDecimal ?_)
  calc decimalQuanta 1 310
      ≤ decimalQuanta 1 (exponent + count) := decimalQuanta_one_le_decimalQuanta_one hLarge
    _ = decimalQuanta (1 * 10 ^ count) exponent := (decimalQuanta_mul_ten_pow 1 _ exponent).symm
    _ ≤ decimalQuanta mantissa exponent := by
        rwa [decimalQuanta_le_decimalQuanta_iff, Nat.one_mul]

/-- Decimal parts are read as the number nearest to them, near the ends of the range and
beyond them as well. -/
theorem toBinary64_eq_ofDecimal {parts : DecimalParts} (negative : Bool)
    (hDigits : ∀ c ∈ parts.digits, c.isDigit = true) :
    parts.toBinary64 negative =
      ofDecimal negative (digitsValue parts.digits) parts.exponent := by
  have hDropped : ∀ c ∈ parts.digits.dropWhile (· == '0'), c.isDigit = true :=
    fun c hC => hDigits c ((List.dropWhile_sublist _).subset hC)
  have hHead : ∀ c ∈ (parts.digits.dropWhile (· == '0')).head?, c ≠ '0' := by
    intro c hC
    have hNot := List.head?_dropWhile_not (· == '0') parts.digits
    rw [hC] at hNot
    simpa using hNot
  rw [DecimalParts.toBinary64, ← digitsValue_dropWhile_zero parts.digits]
  generalize parts.digits.dropWhile (· == '0') = digits at hDropped hHead ⊢
  generalize parts.exponent = exponent
  cases digits with
  | nil =>
      change ofDecimal negative 0 0 = ofDecimal negative 0 exponent
      exact ofDecimal_congr negative (by simp [decimalQuanta])
  | cons c rest =>
      have hMost := digitsValue_lt hDropped
      have hLeast : 10 ^ rest.length ≤ digitsValue (c :: rest) :=
        ten_pow_le_digitsValue (hDropped c List.mem_cons_self) (hHead c rfl)
      simp only [List.isEmpty_cons, Bool.false_or, decide_eq_true_eq, List.length_cons] at hMost ⊢
      split
      · next hSmall =>
        exact ofDecimal_eq_of_roundedDecimal_eq negative ((roundedDecimal_zero 0).trans
          (roundedDecimal_eq_zero_of_lt hMost (by omega)).symm)
      · split
        · next hLarge =>
          exact (ofDecimal_eq_infinity
            (overflowQuanta_le_roundedDecimal_of_le hLeast (by omega))).symm
        · rfl

/-! ## Two places -/

/-- Rounding to hundredths moves a number by at most half a hundredth. -/
theorem abs_hundredths_sub_le (quanta : Nat) :
    |((hundredths quanta * quantaPerUnit : Nat) : ℚ) / (100 : Nat) - quanta| ≤
      quantaPerUnit / 200 := by
  have hUnit := quantaPerUnit_pos_rat
  have hNearest := abs_roundHalfEven_sub_le (quanta * 100) quantaPerUnit_pos
  change |(hundredths quanta : ℚ) - _| ≤ _ at hNearest
  have hScaled : ((hundredths quanta * quantaPerUnit : Nat) : ℚ) / (100 : Nat) - quanta =
      quantaPerUnit / 100 * (hundredths quanta - (quanta * 100 : Nat) / quantaPerUnit) := by
    push_cast
    field_simp
  rw [hScaled, abs_mul, abs_of_pos (by positivity)]
  calc (quantaPerUnit / 100 : ℚ) * |(hundredths quanta : ℚ) - (quanta * 100 : Nat) / quantaPerUnit|
      ≤ quantaPerUnit / 100 * (1 / 2) := mul_le_mul_of_nonneg_left hNearest (by positivity)
    _ = quantaPerUnit / 200 := by ring

/-- A number of hundredths near the end of the range is not rounded out of it: half a
hundredth is less there than the distance to the next number. -/
theorem roundToBits_hundredths_lt {quanta : Nat} (hRange : quanta < overflowQuanta)
    (hBits : HasFewBits quanta) :
    roundToBits (hundredths quanta * quantaPerUnit) 100 < overflowQuanta := by
  have hNear := abs_hundredths_sub_le quanta
  have hUnit := quantaPerUnit_pos_rat
  rcases lt_or_ge ((quantaPerUnit : ℚ) / 200 * 2 ^ 54) (quanta : ℚ) with hLarge | hSmall
  · rw [roundToBits_eq_of_near (by decide) hBits
      ((mul_le_mul_of_nonneg_right hNear (by positivity)).trans_lt hLarge)]
    exact hRange
  · have hUpper := (abs_le.mp hNear).2
    have hBound : hundredths quanta * quantaPerUnit ≤ 2 ^ 53 * quantaPerUnit * 100 := by
      have hRat : ((hundredths quanta * quantaPerUnit : Nat) : ℚ) ≤
          2 ^ 53 * quantaPerUnit * 100 := by
        rw [sub_le_iff_le_add, div_le_iff₀ (by norm_num)] at hUpper
        push_cast at hUpper ⊢
        linarith
      exact_mod_cast hRat
    calc roundToBits (hundredths quanta * quantaPerUnit) 100
        ≤ roundToBits (2 ^ 53 * quantaPerUnit) 1 :=
          roundToBits_le_roundToBits (by decide) Nat.one_pos (by rwa [Nat.mul_one])
      _ = 2 ^ 53 * quantaPerUnit := roundToBits_of_hasFewBits (hasFewBits_mul_quantaPerUnit le_rfl)
      _ ≤ 2 ^ 65 * quantaPerUnit := Nat.mul_le_mul_right _ (by decide)
      _ < overflowQuanta := two_pow_mul_quantaPerUnit_lt_overflowQuanta

/-- A finite number stays finite when it is rounded to two places. -/
theorem isFinite_roundedToHundredths {value : Binary64} (h : value.isFinite = true) :
    value.roundedToHundredths.isFinite = true := by
  cases value with
  | finite negative quanta inRange fewBits =>
      have hRounded : (finite negative quanta inRange fewBits).roundedToHundredths =
          finite negative _ (roundToBits_hundredths_lt inRange fewBits) _ :=
        dif_pos (roundToBits_hundredths_lt inRange fewBits)
      rw [hRounded]
      rfl
  | nan => cases h
  | infinity negative => cases h

end Binary64

end PatchCoverage
