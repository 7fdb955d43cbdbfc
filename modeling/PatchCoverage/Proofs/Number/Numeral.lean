import PatchCoverage.Proofs.Number.Shortest

namespace PatchCoverage

/-!
# Decimal numerals

A numeral has digits in front of the point and may have digits behind it and an exponent.
It is read as the number nearest to its exact value (`readDecimal?_text`).

Every finite number is written as a numeral, with its point or with an exponent, and
padded with zeros where the digits do not reach the point.  The zeros do not change the
value, so that what is known of the shortest decimal holds of the numeral
(`exists_isShortest`).
-/

/-- The digits in front of a point: a zero leads only alone. -/
structure IsWhole (whole : List Char) : Prop where
  digits : ∀ c ∈ whole, c.isDigit = true
  nonempty : whole ≠ []
  lead : whole.head? = some '0' → whole = ['0']

/-- The text of an exponent and its value, which is zero without a text. -/
inductive IsPower : List Char → Int → Prop
  /-- No exponent. -/
  | none : IsPower [] 0
  /-- A letter, a sign and digits. -/
  | some {mark : Char} {sign digits : List Char} {factor : Int} (hMark : mark = 'e' ∨ mark = 'E')
      (hSign : WrittenSign sign factor) (hDigits : ∀ c ∈ digits, c.isDigit = true)
      (hNonempty : digits ≠ []) : IsPower (mark :: (sign ++ digits)) (factor * digitsValue digits)

/-- The parts of a decimal numeral without its sign. -/
structure Numeral where
  /-- The digits in front of the point. -/
  whole : List Char
  /-- The digits behind the point; without any there is no point. -/
  places : List Char
  /-- The text of the exponent. -/
  power : List Char
  /-- The value of the exponent. -/
  exponent : Int

/-- The sign of a numeral. -/
def minusSign (negative : Bool) : List Char :=
  if negative then ['-'] else []

namespace Numeral

/-- A point and the digits behind it. -/
def fraction (n : Numeral) : List Char :=
  if n.places.isEmpty then [] else '.' :: n.places

/-- The numeral as it is written. -/
def text (n : Numeral) : List Char :=
  n.whole ++ (n.fraction ++ n.power)

/-- The digits on both sides of the point. -/
def digits (n : Numeral) : List Char :=
  n.whole ++ n.places

/-- The exponent of the last digit. -/
def lastExponent (n : Numeral) : Int :=
  n.exponent - n.places.length

/-- The number nearest to a numeral with a sign. -/
def value (n : Numeral) (negative : Bool) : Binary64 :=
  .ofDecimal negative (digitsValue n.digits) n.lastExponent

/-- A numeral that is written correctly. -/
structure IsWritten (n : Numeral) : Prop where
  whole : IsWhole n.whole
  places : ∀ c ∈ n.places, c.isDigit = true
  power : IsPower n.power n.exponent

/-- A numeral that has more than digits in front of a point. -/
def IsFractional (n : Numeral) : Prop :=
  n.places ≠ [] ∨ n.power ≠ []

end Numeral

/-! ## Reading -/

section Reading

variable {front rest power : List Char} {exponent : Int} {n : Numeral}

/-- A run of characters ends where the next one is none of them. -/
theorem takeWhile_append_of_head? {p : Char → Bool} (hFront : ∀ c ∈ front, p c = true)
    (hRest : ∀ c ∈ rest.head?, p c = false) :
    (front ++ rest).takeWhile p = front ∧ (front ++ rest).dropWhile p = rest := by
  rw [List.takeWhile_append_of_pos hFront, List.dropWhile_append_of_pos hFront]
  cases rest with
  | nil => simp
  | cons c rest =>
      have hNot : ¬ p c = true := by simp [hRest c rfl]
      rw [List.takeWhile_cons_of_neg hNot, List.dropWhile_cons_of_neg hNot, List.append_nil]
      exact ⟨rfl, rfl⟩

namespace IsPower

theorem head?_mark (h : IsPower power exponent) : ∀ c ∈ power.head?, c = 'e' ∨ c = 'E' := by
  cases h with
  | none => simp
  | some hMark hSign hDigits hNonempty =>
      intro c hC
      obtain rfl : _ = c := Option.some.inj hC
      exact hMark

theorem ne_point (h : IsPower power exponent) (rest : List Char) : power ≠ '.' :: rest := by
  rintro rfl
  exact absurd (h.head?_mark '.' rfl) (by decide)

theorem readExponent? (h : IsPower power exponent) :
    PatchCoverage.readExponent? power = Option.some exponent := by
  cases h with
  | none => rfl
  | @some mark sign digits factor hMark hSign hDigits hNonempty =>
      have hHead : ∀ c ∈ digits.head?, c.isDigit = true := fun c hC =>
        hDigits c (List.mem_of_mem_head? hC)
      have hAll : digits.all Char.isDigit = true := List.all_eq_true.mpr hDigits
      have hSome : digits.isEmpty = false := List.isEmpty_eq_false_iff.mpr hNonempty
      have hTake := takeSign_of_writtenSign hSign hHead
      rcases hMark with rfl | rfl <;>
        simp only [PatchCoverage.readExponent?, hTake, hAll, hSome, Bool.not_true, Bool.or_false,
          Bool.false_eq_true, if_false] <;>
        cases hSign <;> simp

end IsPower

namespace Numeral

/-- Behind the first digits stands a point with digits, or the exponent. -/
theorem fraction_append_power (n : Numeral) :
    n.places = [] ∧ n.fraction ++ n.power = n.power ∨
      n.places ≠ [] ∧ n.fraction ++ n.power = '.' :: (n.places ++ n.power) := by
  unfold fraction
  split
  · next hNone => exact .inl ⟨List.isEmpty_iff.mp hNone, List.nil_append _⟩
  · next hSome => exact .inr ⟨fun hNone => hSome (List.isEmpty_iff.mpr hNone), rfl⟩

theorem IsWritten.head?_power (h : n.IsWritten) : ∀ c ∈ n.power.head?, c.isDigit = false := by
  intro c hC
  rcases h.power.head?_mark c hC with rfl | rfl <;> rfl

/-- What follows the digits in front of the point is no digit. -/
theorem IsWritten.head?_rest (h : n.IsWritten) :
    ∀ c ∈ (n.fraction ++ n.power).head?, c.isDigit = false := by
  intro c hC
  rcases n.fraction_append_power with ⟨-, hPower⟩ | ⟨-, hPoint⟩
  · rw [hPower] at hC
    exact h.head?_power c hC
  · rw [hPoint] at hC
    obtain rfl : _ = c := Option.some.inj hC
    rfl

theorem IsWritten.digits (h : n.IsWritten) : ∀ c ∈ n.digits, c.isDigit = true := by
  rw [Numeral.digits]
  exact List.forall_mem_append.mpr ⟨h.whole.digits, h.places⟩

/-- The digits of a numeral are read with the exponent of the last one. -/
theorem readDecimal?_text (h : n.IsWritten) :
    readDecimal? n.text = some ⟨n.digits, n.lastExponent⟩ := by
  obtain ⟨hTake, hDrop⟩ := takeWhile_append_of_head? h.whole.digits h.head?_rest
  have hWhole : n.whole.isEmpty = false := List.isEmpty_eq_false_iff.mpr h.whole.nonempty
  have hPower := h.power.readExponent?
  unfold readDecimal?
  simp only [text, hTake, hDrop, hWhole, Bool.false_and, Bool.false_eq_true, if_false]
  rcases n.fraction_append_power with ⟨hPlaces, hRest⟩ | ⟨-, hRest⟩
  · rw [hRest]
    split
    · next rest hPoint => exact absurd hPoint (h.power.ne_point rest)
    · simp [hPower, digits, lastExponent, hPlaces]
  · obtain ⟨hTakePlaces, hDropPlaces⟩ := takeWhile_append_of_head? h.places h.head?_power
    simp only [hRest, hTakePlaces, hDropPlaces, hPower, Option.map_some]
    rfl

end Numeral

end Reading

/-! ## Writing -/

section Writing

open Binary64

variable {digits : List Char}

/-- A numeral whose parts are written correctly, with the text and the value that it has. -/
structure Numeral.Writes (n : Numeral) (text : List Char) (quanta : ℚ) : Prop where
  written : n.IsWritten
  fractional : n.IsFractional
  text : n.text = text
  quanta : decimalQuanta (digitsValue n.digits) n.lastExponent = quanta

theorem isWhole_of_head? (hDigits : ∀ c ∈ digits, c.isDigit = true) (hSome : digits ≠ [])
    (hHead : ∀ c ∈ digits.head?, c ≠ '0') : IsWhole digits where
  digits := hDigits
  nonempty := hSome
  lead hZero := absurd rfl (hHead '0' hZero)

theorem isDigit_zeros (count : Nat) : ∀ c ∈ List.replicate count '0', c.isDigit = true := by
  intro c hC
  rw [List.eq_of_mem_replicate hC]
  rfl

theorem isWhole_zero : IsWhole ['0'] :=
  ⟨isDigit_zeros 1, List.cons_ne_nil _ _, fun _ => rfl⟩

theorem isWhole_decimalDigits (value : Nat) : IsWhole (decimalDigits value) := by
  rcases Nat.eq_zero_or_pos value with rfl | hPositive
  · exact isWhole_zero
  · exact isWhole_of_head? (isDigit_decimalDigits value)
      (List.length_pos_iff.mp Nat.length_toDigits_pos) (head?_decimalDigits hPositive)

/-- Digits behind a point with zeros in front of them. -/
theorem exists_writes_places (hDigits : ∀ c ∈ digits, c.isDigit = true) (hSome : digits ≠ [])
    (zeros : Nat) :
    ∃ n : Numeral, n.Writes ('0' :: '.' :: (List.replicate zeros '0' ++ digits))
      (decimalQuanta (digitsValue digits) (-(zeros : ℤ) - digits.length)) := by
  refine ⟨⟨['0'], List.replicate zeros '0' ++ digits, [], 0⟩, ?_, ?_, ?_, ?_⟩
  · exact ⟨isWhole_zero, List.forall_mem_append.mpr ⟨isDigit_zeros zeros, hDigits⟩, .none⟩
  · exact .inl (by simp [hSome])
  · simp [Numeral.text, Numeral.fraction, hSome]
  · have hValue : digitsValue (['0'] ++ (List.replicate zeros '0' ++ digits)) =
        digitsValue digits := by
      rw [← digitsValue_zeros_append zeros digits]
      exact digitsValue_zeros_append 1 _
    simp only [Numeral.digits, Numeral.lastExponent, hValue, List.length_append,
      List.length_replicate]
    congr 1
    push_cast
    ring

/-- Digits of which a part stands behind the point. -/
theorem exists_writes_split {front back : List Char} (hFront : IsWhole front)
    (hBack : ∀ c ∈ back, c.isDigit = true) (hSome : back ≠ []) :
    ∃ n : Numeral, n.Writes (front ++ '.' :: back)
      (decimalQuanta (digitsValue (front ++ back)) (-(back.length : ℤ))) := by
  refine ⟨⟨front, back, [], 0⟩, ⟨hFront, hBack, .none⟩, .inl hSome, ?_, ?_⟩
  · simp [Numeral.text, Numeral.fraction, hSome]
  · simp only [Numeral.digits, Numeral.lastExponent, zero_sub]

/-- The text of an exponent with a sign and zeros in front. -/
theorem isPower_append (exponent : Int) (zeros : Nat) :
    IsPower ('e' :: (if exponent < 0 then '-' else '+') ::
      (List.replicate zeros '0' ++ decimalDigits exponent.natAbs)) exponent := by
  have hDigits : ∀ c ∈ List.replicate zeros '0' ++ decimalDigits exponent.natAbs,
      c.isDigit = true :=
    List.forall_mem_append.mpr ⟨isDigit_zeros zeros, isDigit_decimalDigits _⟩
  have hSome : List.replicate zeros '0' ++ decimalDigits exponent.natAbs ≠ [] :=
    List.append_ne_nil_of_right_ne_nil _ (List.length_pos_iff.mp Nat.length_toDigits_pos)
  have hValue : digitsValue (List.replicate zeros '0' ++ decimalDigits exponent.natAbs) =
      exponent.natAbs := by
    rw [digitsValue_zeros_append, digitsValue_decimalDigits]
  split
  · next hNegative =>
    have hPower := IsPower.some (.inl rfl) .minus hDigits hSome
    rwa [hValue, show -1 * (exponent.natAbs : ℤ) = exponent by omega] at hPower
  · next hPositive =>
    have hPower := IsPower.some (.inl rfl) .plus hDigits hSome
    rwa [hValue, show 1 * (exponent.natAbs : ℤ) = exponent by omega] at hPower

section Leading

variable (hDigits : ∀ c ∈ digits, c.isDigit = true) (hSome : digits ≠ [])
  (hHead : ∀ c ∈ digits.head?, c ≠ '0')

include hDigits hSome hHead

/-- Digits are written with a point after as many places as they are told to. -/
theorem exists_writes_pointedDigits (whole : Int) :
    ∃ n : Numeral, n.Writes (pointedDigits digits whole)
      (decimalQuanta (digitsValue digits) (whole - digits.length)) := by
  unfold pointedDigits
  split
  · next hNone =>
    obtain ⟨zeros, rfl⟩ : ∃ zeros : Nat, whole = -(zeros : ℤ) := ⟨(-whole).toNat, by omega⟩
    rw [neg_neg, Int.toNat_natCast]
    exact exists_writes_places hDigits hSome zeros
  · next hFront =>
    obtain ⟨count, rfl⟩ : ∃ count : Nat, whole = count := ⟨whole.toNat, by omega⟩
    simp only [Int.toNat_natCast]
    have hCount : 0 < count := by omega
    rcases Nat.lt_or_ge count digits.length with hLess | hMost
    · -- The point stands between two digits.
      have hBack : digits.drop count ≠ [] := by simpa using hLess
      have hTake : IsWhole (digits.take count) :=
        isWhole_of_head? (fun c hC => hDigits c (List.mem_of_mem_take hC))
          (by simp [hSome, hCount.ne']) (by rwa [List.head?_take, if_neg hCount.ne'])
      have hWrites := exists_writes_split hTake
        (fun c hC => hDigits c (List.mem_of_mem_drop hC)) hBack
      rw [List.take_append_drop, List.length_drop, Nat.cast_sub hLess.le, neg_sub] at hWrites
      rw [Nat.sub_eq_zero_of_le hLess.le, List.replicate_zero, List.append_nil,
        if_neg (by simpa using hLess)]
      exact hWrites
    · -- Zeros fill the places up to the point, and one stands behind it.
      have hWhole : IsWhole (digits ++ List.replicate (count - digits.length) '0') :=
        isWhole_of_head? (List.forall_mem_append.mpr ⟨hDigits, isDigit_zeros _⟩) (by simp [hSome])
          (by rwa [List.head?_append_of_ne_nil _ hSome])
      have hValue : decimalQuanta (digitsValue
            (digits ++ List.replicate (count - digits.length) '0' ++ ['0'])) (-1) =
          decimalQuanta (digitsValue digits) (count - digits.length) := by
        rw [List.append_assoc, ← List.replicate_succ', digitsValue_append_zeros,
          decimalQuanta_mul_ten_pow]
        congr 1
        omega
      rw [List.take_of_length_le hMost, List.drop_of_length_le hMost, ← hValue]
      exact exists_writes_split hWhole (isDigit_zeros 1) (List.cons_ne_nil _ _)

/-- Digits are written with the exponent of the first of them. -/
theorem exists_writes_scientificDigits (layout : ExponentLayout) (exponent : Int) :
    ∃ n : Numeral, n.Writes (scientificDigits layout digits exponent)
      (decimalQuanta (digitsValue digits) (exponent + 1 - digits.length)) := by
  obtain ⟨c, rest, rfl⟩ := List.exists_cons_of_ne_nil hSome
  obtain ⟨hFirst, hRest⟩ := List.forall_mem_cons.mp hDigits
  refine ⟨⟨[c], rest, _, exponent⟩, ⟨?_, hRest, isPower_append exponent _⟩, .inr (by simp), rfl, ?_⟩
  · exact isWhole_of_head? (by simpa using hFirst) (by simp) (by simpa using hHead)
  · simp only [Numeral.digits, Numeral.lastExponent, List.singleton_append, List.length_cons]
    congr 1
    push_cast
    ring

end Leading

/-- The shortest text of a positive count of quanta is a numeral of the shortest
decimal. -/
theorem exists_writes_shortestMagnitude {quanta : Nat} (h : 0 < quanta)
    (hBits : HasFewBits quanta) :
    ∃ n : Numeral, n.Writes (shortestMagnitude quanta)
      (decimalQuanta (shortestDecimal quanta).1 (shortestDecimal quanta).2) := by
  have hPositive := pos_of_roundedDecimal_eq h (roundedDecimal_shortestDecimal h hBits)
  unfold shortestMagnitude
  generalize shortestDecimal quanta = decimal at hPositive ⊢
  obtain ⟨mantissa, exponent⟩ := decimal
  obtain ⟨zeros, hWritten, hValue⟩ := exists_eq_digitsValue_mul mantissa
  obtain ⟨hSome, hHead⟩ := significantDigits_of_pos hPositive
  have hDigits := isDigit_significantDigits mantissa
  have hExponent : exponent + (decimalDigits mantissa).length - 1 + 1 -
      (significantDigits mantissa).length = exponent + zeros := by
    rw [hWritten, List.length_append, List.length_replicate]
    push_cast
    ring
  have hQuanta : decimalQuanta mantissa exponent =
      decimalQuanta (digitsValue (significantDigits mantissa))
        (exponent + (decimalDigits mantissa).length - 1 + 1 -
          (significantDigits mantissa).length) := by
    rw [hExponent, ← decimalQuanta_mul_ten_pow, ← hValue]
  dsimp only
  rw [hQuanta, ← significantDigits]
  split
  · exact exists_writes_pointedDigits hDigits hSome hHead _
  · exact exists_writes_scientificDigits hDigits hSome hHead _ _

/-- A numeral that is the shortest text of a number, and the shortest decimal. -/
def Numeral.IsShortest (value : Binary64) (negative : Bool) (n : Numeral) : Prop :=
  value.shortestText.toList = minusSign negative ++ n.text ∧
    ∃ quanta inRange fewBits, value = finite negative quanta inRange fewBits ∧
      IsShortestDecimal quanta (digitsValue n.digits) n.lastExponent

theorem toList_signed (negative : Bool) (magnitude : List Char) :
    (signed negative magnitude).toList = minusSign negative ++ magnitude := by
  cases negative <;> exact String.toList_ofList

/-- Every finite number is written as a numeral that is read as that number and is the
shortest. -/
theorem exists_isShortest {value : Binary64} (h : value.isFinite = true) :
    ∃ (negative : Bool) (n : Numeral), n.IsWritten ∧ n.IsFractional ∧ n.value negative = value ∧
      n.IsShortest value negative := by
  obtain ⟨negative, quanta, inRange, fewBits, rfl⟩ :
      ∃ negative quanta inRange fewBits, value = finite negative quanta inRange fewBits := by
    cases value with
    | finite negative quanta inRange fewBits => exact ⟨_, _, _, _, rfl⟩
    | nan => cases h
    | infinity negative => cases h
  suffices hText : ∃ (n : Numeral) (mantissa : Nat) (exponent : Int),
      n.Writes (if quanta = 0 then ['0', '.', '0'] else shortestMagnitude quanta)
        (decimalQuanta mantissa exponent) ∧ IsShortestDecimal quanta mantissa exponent by
    obtain ⟨n, mantissa, exponent, hWrites, hDecimal⟩ := hText
    have hShortest := hDecimal.congr hWrites.quanta.symm
    refine ⟨negative, n, hWrites.written, hWrites.fractional,
      ofDecimal_eq_finite_iff.mpr hShortest.rounds, ?_, _, _, _, rfl, hShortest⟩
    rw [hWrites.text, shortestText]
    split <;> exact toList_signed negative _
  split
  · next hZero =>
    subst hZero
    obtain ⟨n, hWrites⟩ := exists_writes_split isWhole_zero (isDigit_zeros 1) (List.cons_ne_nil _ _)
    exact ⟨n, _, _, hWrites, isShortestDecimal_zero _⟩
  · next hSome =>
    have hPositive := Nat.pos_of_ne_zero hSome
    obtain ⟨n, hWrites⟩ := exists_writes_shortestMagnitude hPositive fewBits
    exact ⟨n, _, _, hWrites, isShortestDecimal_shortestDecimal hPositive fewBits⟩

end Writing

end PatchCoverage
