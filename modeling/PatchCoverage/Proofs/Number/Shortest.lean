import PatchCoverage.Proofs.Number.Decimal

namespace PatchCoverage

/-!
# The shortest decimal of a number

The shortest decimal is looked for at one exponent after the other, from that of the
number down.  At each exponent the two neighbours of the number are tried; since rounding
keeps the order of decimals, one of them reads back if any decimal of that exponent does.

With seventeen digits the nearer neighbour reads back: it is at most half a unit of the
last digit away from the number, which is less than the number divided by `2 ^ 54`.  So
the search ends with a decimal that reads back (`roundedDecimal_shortestDecimal`), none
with fewer digits does (`length_significantDigits_le`), and none with as few digits is
nearer to the number (`abs_shortestDecimal_sub_le`).  `IsShortestDecimal` says the three
of the value of a decimal, however many zeros it is written with.
-/

namespace Binary64

-- As for the values themselves, nothing below may unfold the two counts.
attribute [local irreducible] quantaPerUnit overflowQuanta

/-! ## Neighbours -/

section Search

variable {quanta mantissa : Nat} {exponent : Int}

/-- The neighbours of a number are the whole numbers around its exact quotient. -/
theorem exists_neighbours (quanta : Nat) (exponent : Int) :
    ∃ numerator denominator : Nat, 0 < denominator ∧
      decimalQuanta 1 exponent * (numerator / denominator) = quanta ∧
      decimalNeighbours quanta exponent = (numerator / denominator,
        roundHalfEven numerator denominator != numerator / denominator) := by
  have hUnit := quantaPerUnit_pos_rat
  cases exponent with
  | ofNat power =>
      refine ⟨quanta, Nat.pow 10 power * quantaPerUnit,
        Nat.mul_pos (Nat.pow_pos (by decide)) quantaPerUnit_pos, ?_, rfl⟩
      simp only [decimalQuanta, Nat.pow_eq]
      push_cast
      field_simp
      simp [mul_comm]
  | negSucc power =>
      refine ⟨quanta * Nat.pow 10 (power + 1), quantaPerUnit, quantaPerUnit_pos, ?_, rfl⟩
      simp only [decimalQuanta, Nat.pow_eq, zpow_negSucc]
      push_cast
      field_simp

/-- The lower neighbour is at most the number, and the number is less than the upper
one. -/
theorem neighbours_around (quanta : Nat) (exponent : Int) :
    let lower := (decimalNeighbours quanta exponent).1
    decimalQuanta lower exponent ≤ quanta ∧ quanta < decimalQuanta (lower + 1) exponent := by
  obtain ⟨numerator, denominator, hPositive, hQuanta, hNeighbours⟩ :=
    exists_neighbours quanta exponent
  have hScale := decimalQuanta_one_pos exponent
  have hDenominator : (0 : ℚ) < denominator := by exact_mod_cast hPositive
  simp only [hNeighbours]
  rw [decimalQuanta_eq_mul, decimalQuanta_eq_mul (numerator / denominator + 1), ← hQuanta]
  constructor
  · exact mul_le_mul_of_nonneg_left Nat.cast_div_le hScale.le
  · refine mul_lt_mul_of_pos_left ?_ hScale
    rw [div_lt_iff₀' hDenominator]
    exact_mod_cast Nat.lt_mul_div_succ numerator hPositive

/-- What is found at an exponent: the nearer neighbour if both read back, and otherwise the
one that does. -/
theorem mantissaAt?_cases (h : mantissaAt? quanta exponent = some mantissa) :
    let lower := (decimalNeighbours quanta exponent).1
    (readsBack quanta lower exponent = true ∧ readsBack quanta (lower + 1) exponent = true ∧
        mantissa = if (decimalNeighbours quanta exponent).2 then lower + 1 else lower) ∨
      (readsBack quanta lower exponent = true ∧ readsBack quanta (lower + 1) exponent = false ∧
        mantissa = lower) ∨
      (readsBack quanta lower exponent = false ∧ readsBack quanta (lower + 1) exponent = true ∧
        mantissa = lower + 1) := by
  unfold mantissaAt? at h
  dsimp only at h ⊢
  split at h
  · next hLower hUpper => exact .inl ⟨hLower, hUpper, (Option.some.inj h).symm⟩
  · next hLower hUpper => exact .inr (.inl ⟨hLower, hUpper, (Option.some.inj h).symm⟩)
  · next hLower hUpper => exact .inr (.inr ⟨hLower, hUpper, (Option.some.inj h).symm⟩)
  · cases h

theorem readsBack_of_mantissaAt? (h : mantissaAt? quanta exponent = some mantissa) :
    readsBack quanta mantissa exponent = true ∧
      (mantissa = (decimalNeighbours quanta exponent).1 ∨
        mantissa = (decimalNeighbours quanta exponent).1 + 1) := by
  rcases mantissaAt?_cases h with ⟨hLower, hUpper, rfl⟩ | ⟨hLower, -, rfl⟩ | ⟨-, hUpper, rfl⟩
  · split
    · exact ⟨hUpper, .inr rfl⟩
    · exact ⟨hLower, .inl rfl⟩
  · exact ⟨hLower, .inl rfl⟩
  · exact ⟨hUpper, .inr rfl⟩

/-- The upper neighbour reads back if a greater decimal does. -/
theorem readsBack_upper (hBits : HasFewBits quanta)
    (hMore : (decimalNeighbours quanta exponent).1 < mantissa)
    (h : readsBack quanta mantissa exponent = true) :
    readsBack quanta ((decimalNeighbours quanta exponent).1 + 1) exponent = true := by
  rw [readsBack_eq_true_iff] at h ⊢
  refine Nat.le_antisymm (le_of_le_of_eq ?_ h)
    (le_roundedDecimal hBits (neighbours_around quanta exponent).2.le)
  exact roundedDecimal_le_roundedDecimal (decimalQuanta_le_decimalQuanta_iff.mpr hMore)

/-- The lower neighbour reads back if a lesser decimal does. -/
theorem readsBack_lower (hBits : HasFewBits quanta)
    (hLess : mantissa ≤ (decimalNeighbours quanta exponent).1)
    (h : readsBack quanta mantissa exponent = true) :
    readsBack quanta (decimalNeighbours quanta exponent).1 exponent = true := by
  rw [readsBack_eq_true_iff] at h ⊢
  refine Nat.le_antisymm (roundedDecimal_le hBits (neighbours_around quanta exponent).1)
    (le_of_eq_of_le h.symm ?_)
  exact roundedDecimal_le_roundedDecimal (decimalQuanta_le_decimalQuanta_iff.mpr hLess)

/-- Where any decimal of an exponent reads back, one of the neighbours does. -/
theorem exists_mantissaAt? (hBits : HasFewBits quanta)
    (h : readsBack quanta mantissa exponent = true) :
    ∃ found, mantissaAt? quanta exponent = some found := by
  unfold mantissaAt?
  rcases Nat.lt_or_ge (decimalNeighbours quanta exponent).1 mantissa with hMore | hLess
  · have hUpper := readsBack_upper hBits hMore h
    cases hLower : readsBack quanta (decimalNeighbours quanta exponent).1 exponent <;>
      simp only [hLower, hUpper] <;> exact ⟨_, rfl⟩
  · have hLower := readsBack_lower hBits hLess h
    cases hUpper : readsBack quanta ((decimalNeighbours quanta exponent).1 + 1) exponent <;>
      simp only [hLower, hUpper] <;> exact ⟨_, rfl⟩

/-- No decimal of the same exponent that reads back is nearer to the number. -/
theorem nearest_of_mantissaAt? {other : Nat} (hBits : HasFewBits quanta)
    (h : mantissaAt? quanta exponent = some mantissa)
    (hReads : readsBack quanta other exponent = true) :
    |decimalQuanta mantissa exponent - quanta| ≤ |decimalQuanta other exponent - quanta| := by
  obtain ⟨hBelow, hAbove⟩ := neighbours_around quanta exponent
  have hScale := decimalQuanta_one_pos exponent
  rcases mantissaAt?_cases h with ⟨-, -, hNearer⟩ | ⟨-, hUpper, rfl⟩ | ⟨hLower, -, rfl⟩
  · -- Both neighbours read back, and the nearest whole number is taken.
    obtain ⟨numerator, denominator, hPositive, hQuanta, hNeighbours⟩ :=
      exists_neighbours quanta exponent
    have hMantissa : mantissa = roundHalfEven numerator denominator := by
      have hLower := div_le_roundHalfEven numerator denominator
      have hUpper := roundHalfEven_le_div_add_one numerator denominator
      rw [hNearer, hNeighbours]
      simp only [bne_iff_ne]
      split <;> omega
    rw [decimalQuanta_eq_mul, decimalQuanta_eq_mul other, ← hQuanta, ← mul_sub, ← mul_sub, abs_mul,
      abs_mul, hMantissa]
    exact mul_le_mul_of_nonneg_left (abs_roundHalfEven_sub_le_abs_sub numerator other hPositive)
      (abs_nonneg _)
  · have hOther : other ≤ (decimalNeighbours quanta exponent).1 := by
      by_contra hMore
      rw [readsBack_upper hBits (Nat.lt_of_not_le hMore) hReads] at hUpper
      cases hUpper
    have hOrder : decimalQuanta other exponent ≤
        decimalQuanta (decimalNeighbours quanta exponent).1 exponent :=
      decimalQuanta_le_decimalQuanta_iff.mpr hOther
    rw [abs_of_nonpos (by linarith), abs_of_nonpos (by linarith)]
    linarith
  · have hOther : (decimalNeighbours quanta exponent).1 + 1 ≤ other := by
      by_contra hLess
      rw [readsBack_lower hBits (by omega) hReads] at hLower
      cases hLower
    have hOrder : decimalQuanta ((decimalNeighbours quanta exponent).1 + 1) exponent ≤
        decimalQuanta other exponent :=
      decimalQuanta_le_decimalQuanta_iff.mpr hOther
    rw [abs_of_nonneg (by linarith), abs_of_nonneg (by linarith)]
    linarith

-- What is found at an exponent is not worked out below.
attribute [local irreducible] mantissaAt?

theorem searchMantissa_succ (quanta fuel : Nat) (exponent : Int) :
    searchMantissa quanta (fuel + 1) exponent =
      match mantissaAt? quanta exponent with
      | some mantissa => (mantissa, exponent)
      | none => searchMantissa quanta fuel (exponent - 1) :=
  rfl

/-- A search finds what the first exponent has at which there is anything. -/
theorem searchMantissa_eq {places fuel : Nat} {found : Nat} (hPlaces : places < fuel)
    (hFound : mantissaAt? quanta (exponent - places) = some found)
    (hFirst : ∀ fewer < places, mantissaAt? quanta (exponent - fewer) = none) :
    searchMantissa quanta fuel exponent = (found, exponent - places) := by
  induction fuel generalizing places exponent with
  | zero => omega
  | succ fuel ih =>
      rw [searchMantissa_succ]
      cases places with
      | zero =>
          simp only [Nat.cast_zero, sub_zero] at hFound ⊢
          simp only [hFound]
      | succ places =>
          have hNone := hFirst 0 (Nat.succ_pos places)
          simp only [Nat.cast_zero, sub_zero] at hNone
          have hShift (count : Nat) : exponent - (count + 1 : Nat) = exponent - 1 - count := by
            push_cast
            ring
          rw [hShift] at hFound ⊢
          simp only [hNone]
          refine ih (Nat.lt_of_succ_lt_succ hPlaces) hFound fun fewer hFewer => ?_
          rw [← hShift]
          exact hFirst (fewer + 1) (Nat.succ_lt_succ hFewer)

/-! ## Seventeen digits -/

theorem length_decimalDigits_le_iff {value count : Nat} (h : 0 < count) :
    (decimalDigits value).length ≤ count ↔ value < 10 ^ count :=
  Nat.length_toDigits_le_iff (by decide) h

theorem ten_pow_le_of_length {value : Nat} (h : 0 < value) :
    10 ^ ((decimalDigits value).length - 1) ≤ value := by
  by_contra hLess
  rw [Nat.not_le] at hLess
  rcases Nat.eq_zero_or_pos ((decimalDigits value).length - 1) with hZero | hPositive
  · rw [hZero, Nat.pow_zero] at hLess
    omega
  · have hShort := (length_decimalDigits_le_iff hPositive).mpr hLess
    omega

/-- From one unit on, the exponent is that of the first digit of the whole units. -/
theorem around_of_quantaPerUnit_le (h : quantaPerUnit ≤ quanta) :
    decimalQuanta 1 ((decimalDigits (quanta / quantaPerUnit)).length - 1 : ℤ) ≤ quanta ∧
      quanta < decimalQuanta 1 ((decimalDigits (quanta / quantaPerUnit)).length - 1 + 1 : ℤ) := by
  have hUnit := quantaPerUnit_pos
  have hLength : 0 < (decimalDigits (quanta / quantaPerUnit)).length := Nat.length_toDigits_pos
  have hLower := ten_pow_le_of_length (Nat.div_pos h hUnit)
  have hUpper := (length_decimalDigits_le_iff hLength).mp le_rfl
  have hQuotient := Nat.div_mul_le_self quanta quantaPerUnit
  have hRest := Nat.lt_mul_div_succ quanta hUnit
  obtain ⟨length, hSucc⟩ := Nat.exists_eq_succ_of_ne_zero hLength.ne'
  rw [hSucc] at hLower hUpper ⊢
  simp only [Nat.succ_eq_add_one, Nat.add_sub_cancel, Nat.cast_add, Nat.cast_one,
    add_sub_cancel_right, decimalQuanta, one_mul] at hLower hUpper ⊢
  constructor
  · rw [zpow_natCast]
    exact_mod_cast (Nat.mul_le_mul_right quantaPerUnit hLower).trans hQuotient
  · have hNext : quanta < 10 ^ (length + 1) * quantaPerUnit :=
      hRest.trans_le (by rw [Nat.mul_comm]; exact Nat.mul_le_mul_right quantaPerUnit hUpper)
    exact_mod_cast hNext

/-- Below one unit, the exponent is found from the number of times that a number goes into
less than a unit. -/
theorem around_of_lt_quantaPerUnit {times : Nat} (hTimes : times * quanta < quantaPerUnit)
    (hMore : quantaPerUnit ≤ (times + 1) * quanta) (hSome : 0 < times) :
    decimalQuanta 1 (-((decimalDigits times).length : ℤ)) ≤ quanta ∧
      quanta < decimalQuanta 1 (-((decimalDigits times).length : ℤ) + 1) := by
  have hLength : 0 < (decimalDigits times).length := Nat.length_toDigits_pos
  have hLower := ten_pow_le_of_length hSome
  have hUpper := (length_decimalDigits_le_iff hLength).mp le_rfl
  obtain ⟨length, hSucc⟩ := Nat.exists_eq_succ_of_ne_zero hLength.ne'
  rw [hSucc] at hLower hUpper ⊢
  have hExponent : -((length + 1 : Nat) : ℤ) + 1 = -(length : ℤ) := by
    push_cast
    ring
  rw [hExponent, decimalQuanta, decimalQuanta, zpow_neg, zpow_neg, zpow_natCast, zpow_natCast,
    Nat.cast_one, one_mul, one_mul, inv_mul_le_iff₀ (by positivity),
    lt_inv_mul_iff₀ (by positivity)]
  constructor
  · exact_mod_cast hMore.trans (Nat.mul_le_mul_right quanta (Nat.succ_le_of_lt hUpper))
  · exact_mod_cast (Nat.mul_le_mul_right quanta hLower).trans_lt hTimes

/-- A number lies between the power of ten with its exponent and the next one. -/
theorem decimalExponent_around (h : 0 < quanta) :
    decimalQuanta 1 (decimalExponent quanta) ≤ quanta ∧
      quanta < decimalQuanta 1 (decimalExponent quanta + 1) := by
  unfold decimalExponent
  split
  · next hUnits => exact around_of_quantaPerUnit_le hUnits
  · next hFraction =>
    -- The quotient is rounded up, so that `times` is the last number of times below a unit.
    obtain ⟨times, hQuotient⟩ : ∃ times, (quantaPerUnit + quanta - 1) / quanta = times + 1 + 1 := by
      have hTwo : 2 ≤ (quantaPerUnit + quanta - 1) / quanta := by
        rw [Nat.le_div_iff_mul_le h]
        omega
      exact ⟨_, (Nat.sub_add_cancel hTwo).symm⟩
    have hBelow := Nat.div_mul_le_self (quantaPerUnit + quanta - 1) quanta
    have hRest := Nat.lt_mul_div_succ (quantaPerUnit + quanta - 1) h
    rw [hQuotient] at hBelow hRest ⊢
    rw [Nat.add_sub_cancel]
    refine around_of_lt_quantaPerUnit ?_ ?_ (Nat.succ_pos times)
    · have hSplit : (times + 1 + 1) * quanta = (times + 1) * quanta + quanta := by ring
      omega
    · have hSplit : quanta * (times + 1 + 1 + 1) = (times + 1 + 1) * quanta + quanta := by ring
      omega

/-- Seventeen digits read back: the decimal nearest to a number is closer to it than the
next number is. -/
theorem exists_mantissaAt?_sixteen (h : 0 < quanta) (hBits : HasFewBits quanta) :
    ∃ found, mantissaAt? quanta (decimalExponent quanta - (16 : Nat)) = some found := by
  obtain ⟨hLower, -⟩ := decimalExponent_around h
  generalize decimalExponent quanta = exponent at hLower ⊢
  obtain ⟨numerator, denominator, hPositive, hQuanta, -⟩ :=
    exists_neighbours quanta (exponent - (16 : Nat))
  have hNearest := abs_roundHalfEven_sub_le numerator hPositive
  have hScale := decimalQuanta_one_pos (exponent - (16 : Nat))
  have hSixteen : decimalQuanta 1 exponent = decimalQuanta 1 (exponent - (16 : Nat)) * 10 ^ 16 := by
    rw [decimalQuanta, decimalQuanta, zpow_sub₀ (by norm_num), zpow_natCast]
    field_simp
  have hFraction :=
    decimalFraction_pos (roundHalfEven numerator denominator) (exponent - (16 : Nat))
  have hReads : roundedDecimal (roundHalfEven numerator denominator) (exponent - (16 : Nat)) =
      quanta := by
    refine roundToBits_eq_of_near hFraction hBits ?_
    rw [decimalFraction_eq, decimalQuanta_eq_mul]
    generalize decimalQuanta 1 (exponent - (16 : Nat)) = scale at hQuanta hScale hSixteen ⊢
    have hApart : scale * (roundHalfEven numerator denominator : ℚ) - quanta =
        scale * (roundHalfEven numerator denominator - numerator / denominator) := by
      rw [← hQuanta]
      ring
    have hBound : scale * |(roundHalfEven numerator denominator : ℚ) - numerator / denominator| ≤
        scale * (1 / 2) :=
      mul_le_mul_of_nonneg_left hNearest hScale.le
    rw [hApart, abs_mul, abs_of_pos hScale]
    rw [hSixteen] at hLower
    norm_num at hBound hLower ⊢
    linarith
  exact exists_mantissaAt? hBits (readsBack_eq_true_iff.mpr hReads)

/-- The shortest decimal is found at the first exponent at which any decimal reads back. -/
theorem exists_shortestDecimal (h : 0 < quanta) (hBits : HasFewBits quanta) :
    ∃ places mantissa,
      shortestDecimal quanta = (mantissa, decimalExponent quanta - (places : Nat)) ∧
      mantissaAt? quanta (decimalExponent quanta - (places : Nat)) = some mantissa ∧
      ∀ fewer < places, mantissaAt? quanta (decimalExponent quanta - (fewer : Nat)) = none := by
  have hSome : ∃ places : Nat,
      (mantissaAt? quanta (decimalExponent quanta - places)).isSome = true := by
    obtain ⟨found, hFound⟩ := exists_mantissaAt?_sixteen h hBits
    exact ⟨16, by rw [hFound]; rfl⟩
  obtain ⟨mantissa, hMantissa⟩ := Option.isSome_iff_exists.mp (Nat.find_spec hSome)
  have hFirst : ∀ fewer < Nat.find hSome,
      mantissaAt? quanta (decimalExponent quanta - (fewer : Nat)) = none :=
    fun fewer hFewer => Option.not_isSome_iff_eq_none.mp (Nat.find_min hSome hFewer)
  have hPlaces : Nat.find hSome < 17 := by
    obtain ⟨found, hFound⟩ := exists_mantissaAt?_sixteen h hBits
    exact Nat.lt_succ_of_le (Nat.find_min' hSome (by rw [hFound]; rfl))
  exact ⟨_, mantissa, searchMantissa_eq hPlaces hMantissa hFirst, hMantissa, hFirst⟩

/-- The shortest decimal reads back. -/
theorem roundedDecimal_shortestDecimal (h : 0 < quanta) (hBits : HasFewBits quanta) :
    roundedDecimal (shortestDecimal quanta).1 (shortestDecimal quanta).2 = quanta := by
  obtain ⟨places, mantissa, hShortest, hFound, -⟩ := exists_shortestDecimal h hBits
  rw [hShortest]
  exact readsBack_eq_true_iff.mp (readsBack_of_mantissaAt? hFound).1

/-! ### The fewest digits -/

/-- The digits of a mantissa without the zeros at its end. -/
def significantDigits (mantissa : Nat) : List Char :=
  ((decimalDigits mantissa).reverse.dropWhile (· == '0')).reverse

theorem length_significantDigits_le_length (mantissa : Nat) :
    (significantDigits mantissa).length ≤ (decimalDigits mantissa).length := by
  rw [significantDigits, List.length_reverse]
  exact ((List.dropWhile_sublist _).length_le).trans_eq List.length_reverse

theorem significantDigits_mul_ten {mantissa : Nat} (h : 0 < mantissa) :
    significantDigits (10 * mantissa) = significantDigits mantissa := by
  have hDigits : decimalDigits (10 * mantissa) = decimalDigits mantissa ++ ['0'] :=
    (Nat.toDigits_append_toDigits (by decide) h (by decide : 0 < 10)).symm
  rw [significantDigits, hDigits, List.reverse_append, List.reverse_singleton,
    List.singleton_append, List.dropWhile_cons_of_pos (by decide), significantDigits]

theorem significantDigits_ten_pow (power : Nat) : significantDigits (10 ^ power) = ['1'] := by
  induction power with
  | zero => decide
  | succ power ih =>
      rw [Nat.pow_succ', significantDigits_mul_ten (Nat.pow_pos (by decide)), ih]

/-- What is found some places below the exponent of a number has at most one digit more. -/
theorem length_significantDigits_of_mantissaAt? {places : Nat} (h : 0 < quanta)
    (hFound : mantissaAt? quanta (decimalExponent quanta - (places : Nat)) = some mantissa) :
    (significantDigits mantissa).length ≤ places + 1 := by
  obtain ⟨-, hUpper⟩ := decimalExponent_around h
  obtain ⟨hBelow, -⟩ := neighbours_around quanta (decimalExponent quanta - (places : Nat))
  have hExponent : decimalExponent quanta + 1 =
      decimalExponent quanta - (places : Nat) + (places + 1 : Nat) := by
    push_cast
    ring
  have hLess := hBelow.trans_lt hUpper
  rw [hExponent, ← decimalQuanta_mul_ten_pow, decimalQuanta_lt_decimalQuanta_iff, Nat.one_mul]
    at hLess
  have hMost : mantissa ≤ 10 ^ (places + 1) := by
    rcases (readsBack_of_mantissaAt? hFound).2 with hSame | hSame <;> omega
  rcases Nat.lt_or_eq_of_le hMost with hShort | rfl
  · exact (length_significantDigits_le_length mantissa).trans
      ((length_decimalDigits_le_iff (Nat.succ_pos places)).mpr hShort)
  · rw [significantDigits_ten_pow]
    exact Nat.succ_le_succ (Nat.zero_le places)

/-- Of a decimal that is below the power of ten under a number and reads back, that power
reads back as well. -/
theorem readsBack_one_of_le (h : 0 < quanta) (hBits : HasFewBits quanta)
    (hReads : roundedDecimal mantissa exponent = quanta)
    (hBelow : decimalQuanta mantissa exponent ≤ decimalQuanta 1 (decimalExponent quanta)) :
    readsBack quanta 1 (decimalExponent quanta) = true :=
  readsBack_eq_true_iff.mpr (Nat.le_antisymm
    (roundedDecimal_le hBits (decimalExponent_around h).1)
    (hReads.symm.trans_le (roundedDecimal_le_roundedDecimal hBelow)))

/-- No decimal with fewer digits than the shortest one reads back. -/
theorem length_significantDigits_le (h : 0 < quanta) (hBits : HasFewBits quanta)
    (hReads : roundedDecimal mantissa exponent = quanta) :
    (significantDigits (shortestDecimal quanta).1).length ≤ (decimalDigits mantissa).length := by
  obtain ⟨places, found, hShortest, hFound, hFirst⟩ := exists_shortestDecimal h hBits
  have hOne := readsBack_one_of_le h hBits hReads
  rw [hShortest]
  refine (length_significantDigits_of_mantissaAt? h hFound).trans ?_
  generalize decimalExponent quanta = start at *
  by_contra hFewer
  have hSome : 0 < (decimalDigits mantissa).length := Nat.length_toDigits_pos
  have hPlaces : 0 < places := by omega
  have hLess : mantissa < 10 ^ places := (length_decimalDigits_le_iff hPlaces).mp (by omega)
  -- At which of the exponents above can the decimal be written, or one next to it?
  obtain ⟨fewer, hFew, other, hOther⟩ : ∃ fewer < places, ∃ other,
      mantissaAt? quanta (start - (fewer : Nat)) = some other := by
    rcases Int.lt_or_le (start - places) exponent with hCoarse | hFine
    · obtain ⟨other, hWritten⟩ := exists_decimalQuanta_eq mantissa
        (by omega : start - (places - 1 : Nat) ≤ exponent)
      exact ⟨places - 1, by omega, exists_mantissaAt? hBits
        (readsBack_eq_true_iff.mpr ((roundedDecimal_congr hWritten).trans hReads))⟩
    · refine ⟨0, hPlaces, ?_⟩
      rw [Nat.cast_zero, sub_zero]
      exact exists_mantissaAt? hBits
        (hOne (decimalQuanta_le_decimalQuanta_one hLess.le (by omega)))
  rw [hFirst fewer hFew] at hOther
  cases hOther

/-- No decimal with as few digits that reads back is nearer to a number than the shortest
one. -/
theorem abs_shortestDecimal_sub_le (h : 0 < quanta) (hBits : HasFewBits quanta)
    (hReads : roundedDecimal mantissa exponent = quanta)
    (hShort : (decimalDigits mantissa).length ≤
      (significantDigits (shortestDecimal quanta).1).length) :
    |decimalQuanta (shortestDecimal quanta).1 (shortestDecimal quanta).2 - quanta| ≤
      |decimalQuanta mantissa exponent - quanta| := by
  obtain ⟨places, found, hShortest, hFound, hFirst⟩ := exists_shortestDecimal h hBits
  have hOne := readsBack_one_of_le h hBits hReads
  have hLower := (decimalExponent_around h).1
  rw [hShortest] at hShort ⊢
  have hLess : mantissa < 10 ^ (places + 1) := (length_decimalDigits_le_iff (Nat.succ_pos _)).mp
    (hShort.trans (length_significantDigits_of_mantissaAt? h hFound))
  generalize decimalExponent quanta = start at *
  rcases Int.lt_or_le exponent (start - places) with hFine | hCoarse
  · -- The power of ten reads back, and it is nearer than the decimal below it.
    have hBelow : decimalQuanta mantissa exponent ≤ decimalQuanta 1 start :=
      decimalQuanta_le_decimalQuanta_one hLess.le (by push_cast; omega)
    have hStart : places = 0 := by
      by_contra hSome
      obtain ⟨other, hOther⟩ := exists_mantissaAt? hBits (hOne hBelow)
      have hNone := hFirst 0 (Nat.pos_of_ne_zero hSome)
      rw [Nat.cast_zero, sub_zero, hOther] at hNone
      cases hNone
    subst hStart
    rw [Nat.cast_zero, sub_zero] at hFound ⊢
    refine (nearest_of_mantissaAt? hBits hFound (hOne hBelow)).trans ?_
    rw [abs_of_nonpos (by linarith), abs_of_nonpos (by linarith)]
    linarith
  · obtain ⟨other, hWritten⟩ := exists_decimalQuanta_eq mantissa hCoarse
    rw [← hWritten]
    exact nearest_of_mantissaAt? hBits hFound
      (readsBack_eq_true_iff.mpr ((roundedDecimal_congr hWritten).trans hReads))

end Search

/-! ### Decimals with the same value -/

section Significant

variable {mantissa other quanta : Nat} {exponent otherExponent : Int}

/-- The digits of a mantissa are the significant ones and zeros. -/
theorem exists_decimalDigits_eq (mantissa : Nat) :
    ∃ zeros, decimalDigits mantissa = significantDigits mantissa ++ List.replicate zeros '0' := by
  have hSplit := List.takeWhile_append_dropWhile (p := (· == '0'))
    (l := (decimalDigits mantissa).reverse)
  have hZeros := List.eq_replicate_of_mem fun c hC =>
    beq_iff_eq.mp (List.all_eq_true.mp
      (List.all_takeWhile (p := (· == '0')) (l := (decimalDigits mantissa).reverse)) c hC)
  rw [hZeros, ← List.reverse_inj, List.reverse_append, List.reverse_replicate,
    List.reverse_reverse] at hSplit
  exact ⟨_, hSplit.symm⟩

/-- A mantissa is the value of its significant digits times a power of ten. -/
theorem exists_eq_digitsValue_mul (mantissa : Nat) :
    ∃ zeros, decimalDigits mantissa = significantDigits mantissa ++ List.replicate zeros '0' ∧
      mantissa = digitsValue (significantDigits mantissa) * 10 ^ zeros := by
  obtain ⟨zeros, hDigits⟩ := exists_decimalDigits_eq mantissa
  refine ⟨zeros, hDigits, ?_⟩
  rw [← digitsValue_append_zeros, ← hDigits, digitsValue_decimalDigits]

theorem isDigit_significantDigits (mantissa : Nat) :
    ∀ c ∈ significantDigits mantissa, c.isDigit = true := by
  obtain ⟨zeros, hDigits⟩ := exists_decimalDigits_eq mantissa
  intro c hC
  refine isDigit_decimalDigits mantissa c ?_
  rw [hDigits]
  exact List.mem_append_left _ hC

/-- The first digit of a positive number is not zero. -/
theorem head?_decimalDigits {value : Nat} (h : 0 < value) :
    ∀ c ∈ (decimalDigits value).head?, c ≠ '0' := by
  intro c hC hZero
  have hLeast := ten_pow_le_of_length h
  obtain ⟨rest, hRest⟩ := List.head?_eq_some_iff.mp hC
  have hDigits : ∀ c ∈ rest, c.isDigit = true := fun c hMem =>
    isDigit_decimalDigits value c (by rw [hRest]; exact List.mem_cons_of_mem _ hMem)
  have hValue : value = digitsValue rest := by
    rw [← digitsValue_decimalDigits value, hRest, hZero]
    exact digitsValue_zeros_append 1 rest
  rw [hRest, List.length_cons, Nat.add_sub_cancel, hValue] at hLeast
  exact Nat.not_lt.mpr hLeast (digitsValue_lt hDigits)

/-- A positive mantissa has a significant digit, and the first one is not zero. -/
theorem significantDigits_of_pos (h : 0 < mantissa) :
    significantDigits mantissa ≠ [] ∧ ∀ c ∈ (significantDigits mantissa).head?, c ≠ '0' := by
  obtain ⟨zeros, hDigits, hValue⟩ := exists_eq_digitsValue_mul mantissa
  have hSome : significantDigits mantissa ≠ [] := by
    intro hNone
    rw [hNone, show digitsValue [] = 0 from rfl, Nat.zero_mul] at hValue
    omega
  refine ⟨hSome, fun c hC => head?_decimalDigits h c ?_⟩
  rw [hDigits, List.head?_append_of_ne_nil _ hSome]
  exact hC

theorem significantDigits_zero : significantDigits 0 = [] := by
  decide

theorem significantDigits_mul_ten_pow (mantissa power : Nat) :
    significantDigits (mantissa * 10 ^ power) = significantDigits mantissa := by
  rcases Nat.eq_zero_or_pos mantissa with rfl | hPositive
  · rw [Nat.zero_mul]
  · induction power with
    | zero => rw [Nat.pow_zero, Nat.mul_one]
    | succ power ih =>
        have hTen : mantissa * 10 ^ (power + 1) = 10 * (mantissa * 10 ^ power) := by ring
        rw [hTen, significantDigits_mul_ten (Nat.mul_pos hPositive (Nat.pow_pos (by decide))), ih]

/-- The significant digits depend on the value of a decimal alone. -/
theorem significantDigits_congr
    (h : decimalQuanta mantissa exponent = decimalQuanta other otherExponent) :
    significantDigits mantissa = significantDigits other := by
  wlog hOrder : exponent ≤ otherExponent generalizing mantissa other exponent otherExponent
  · exact (this h.symm (Int.le_of_not_le hOrder)).symm
  · obtain ⟨power, hPower⟩ := Int.eq_ofNat_of_zero_le (Int.sub_nonneg.mpr hOrder)
    rw [show otherExponent = exponent + power by omega, ← decimalQuanta_mul_ten_pow] at h
    have hMantissa : mantissa = other * 10 ^ power :=
      Nat.le_antisymm (decimalQuanta_le_decimalQuanta_iff.mp h.le)
        (decimalQuanta_le_decimalQuanta_iff.mp h.ge)
    rw [hMantissa, significantDigits_mul_ten_pow]

/-- A decimal has the same value as one whose digits are all significant. -/
theorem exists_decimalQuanta_significant (mantissa : Nat) (exponent : Int) :
    ∃ other otherExponent, decimalQuanta other otherExponent = decimalQuanta mantissa exponent ∧
      (0 < mantissa → (decimalDigits other).length ≤ (significantDigits mantissa).length) := by
  obtain ⟨zeros, -, hValue⟩ := exists_eq_digitsValue_mul mantissa
  refine ⟨digitsValue (significantDigits mantissa), exponent + zeros, ?_, fun hPositive => ?_⟩
  · rw [← decimalQuanta_mul_ten_pow, ← hValue]
  · rw [length_decimalDigits_le_iff
      (List.length_pos_iff.mpr (significantDigits_of_pos hPositive).1)]
    exact digitsValue_lt (isDigit_significantDigits mantissa)

/-! ### What the shortest decimal is -/

/-- A decimal that is rounded to a count of quanta, with the fewest significant digits of
all that are; and of those with as few, none is nearer. -/
structure IsShortestDecimal (quanta mantissa : Nat) (exponent : Int) : Prop where
  rounds : roundedDecimal mantissa exponent = quanta
  fewest : ∀ other otherExponent, roundedDecimal other otherExponent = quanta →
    (significantDigits mantissa).length ≤ (significantDigits other).length
  nearest : ∀ other otherExponent, roundedDecimal other otherExponent = quanta →
    (significantDigits other).length ≤ (significantDigits mantissa).length →
    |decimalQuanta mantissa exponent - quanta| ≤ |decimalQuanta other otherExponent - quanta|

/-- Whether a decimal is the shortest depends on its value alone. -/
theorem IsShortestDecimal.congr (hShortest : IsShortestDecimal quanta mantissa exponent)
    (h : decimalQuanta mantissa exponent = decimalQuanta other otherExponent) :
    IsShortestDecimal quanta other otherExponent where
  rounds := (roundedDecimal_congr h).symm.trans hShortest.rounds
  fewest := significantDigits_congr h ▸ hShortest.fewest
  nearest := significantDigits_congr h ▸ h ▸ hShortest.nearest

theorem pos_of_roundedDecimal_eq (h : 0 < quanta)
    (hRounds : roundedDecimal mantissa exponent = quanta) : 0 < mantissa := by
  refine Nat.pos_of_ne_zero fun hZero => ?_
  rw [hZero, roundedDecimal_zero] at hRounds
  omega

theorem isShortestDecimal_shortestDecimal (h : 0 < quanta) (hBits : HasFewBits quanta) :
    IsShortestDecimal quanta (shortestDecimal quanta).1 (shortestDecimal quanta).2 where
  rounds := roundedDecimal_shortestDecimal h hBits
  fewest other otherExponent hRounds := by
    obtain ⟨written, writtenExponent, hSame, hLength⟩ :=
      exists_decimalQuanta_significant other otherExponent
    exact (length_significantDigits_le h hBits ((roundedDecimal_congr hSame).trans hRounds)).trans
      (hLength (pos_of_roundedDecimal_eq h hRounds))
  nearest other otherExponent hRounds hFew := by
    obtain ⟨written, writtenExponent, hSame, hLength⟩ :=
      exists_decimalQuanta_significant other otherExponent
    rw [← hSame]
    exact abs_shortestDecimal_sub_le h hBits ((roundedDecimal_congr hSame).trans hRounds)
      ((hLength (pos_of_roundedDecimal_eq h hRounds)).trans hFew)

theorem isShortestDecimal_zero (exponent : Int) : IsShortestDecimal 0 0 exponent where
  rounds := roundedDecimal_zero exponent
  fewest other otherExponent _ := by
    rw [significantDigits_zero]
    exact Nat.zero_le _
  nearest other otherExponent _ _ := by
    have hZero : decimalQuanta 0 exponent - (0 : Nat) = 0 := by simp [decimalQuanta]
    rw [hZero, abs_zero]
    exact abs_nonneg _

end Significant

end Binary64

end PatchCoverage
