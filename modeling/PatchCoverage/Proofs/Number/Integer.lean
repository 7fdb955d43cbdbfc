import Mathlib.Algebra.Group.Nat.Defs
import Mathlib.Algebra.Ring.Int.Defs
import Mathlib.Data.List.Basic
import PatchCoverage.Number.Literal

namespace PatchCoverage

/-!
# Integers as they are written

`WritesInteger` is the form of an integer in text: apart from blanks around it, an
optional sign and digits of any script with single underscores between them.  It
is stated as a grammar, without the passes that the reader makes over a text.

The reader accepts exactly this form.  Main statements:
`readInteger_of_writesInteger`, which also tells which integers are too long to
be read, and `exists_writesInteger`.
-/

/-- Digits of any script with their values, an underscore at most between two of
them. -/
inductive WrittenDigits : List Char → List Nat → Prop
  /-- One digit. -/
  | last {c : Char} {value : Nat} (hDigit : digitValue? c = some value) :
      WrittenDigits [c] [value]
  /-- A digit in front of others. -/
  | next {c : Char} {value : Nat} {rest : List Char} {values : List Nat}
      (hDigit : digitValue? c = some value) (hRest : WrittenDigits rest values) :
      WrittenDigits (c :: rest) (value :: values)
  /-- A digit and an underscore in front of others. -/
  | underscore {c : Char} {value : Nat} {rest : List Char} {values : List Nat}
      (hDigit : digitValue? c = some value) (hRest : WrittenDigits rest values) :
      WrittenDigits (c :: '_' :: rest) (value :: values)

/-- A sign, if there is one, and its factor. -/
inductive WrittenSign : List Char → Int → Prop
  /-- No sign. -/
  | none : WrittenSign [] 1
  /-- A plus. -/
  | plus : WrittenSign ['+'] 1
  /-- A minus. -/
  | minus : WrittenSign ['-'] (-1)

/-- The number that digits stand for, the first one with the greatest weight. -/
def valueOfDigits (values : List Nat) : Nat :=
  values.foldl (fun number value => number * 10 + value) 0

/-- A text, apart from blanks around it, writes an integer with a number of
digits. -/
def WritesInteger (text : String) (value : Int) (digitCount : Nat) : Prop :=
  ∃ sign digits factor values,
    trimBoth isNumberBlank text.toList = sign ++ digits ∧ WrittenSign sign factor ∧
      WrittenDigits digits values ∧ value = factor * valueOfDigits values ∧
      digitCount = values.length

/-! ## Single digits -/

/-- The plain digit of a value. -/
def plainCharacter (value : Nat) : Char :=
  Char.ofNat (48 + value)

theorem toNat_of_isDigit {c : Char} (h : c.isDigit = true) : 48 ≤ c.toNat ∧ c.toNat < 48 + 10 := by
  simp only [Char.isDigit, Bool.and_eq_true, decide_eq_true_eq, ge_iff_le,
    UInt32.le_iff_toNat_le] at h
  have hFirst : 48 ≤ c.toNat := h.1
  have hLast : c.toNat ≤ 57 := h.2
  omega

theorem lt_ten_of_digitValue? {c : Char} {value : Nat} (h : digitValue? c = some value) :
    value < 10 := by
  unfold digitValue? at h
  split at h
  · rename_i hDigit
    obtain rfl := Option.some.inj h
    have hRange := toNat_of_isDigit hDigit
    omega
  · split at h
    · cases h
    · obtain ⟨first, hFirst, rfl⟩ := Option.map_eq_some_iff.mp h
      have hRange := Array.find?_some hFirst
      simp only [Bool.and_eq_true, decide_eq_true_eq] at hRange
      omega

theorem plainDigit_of_digitValue? {c : Char} {value : Nat} (h : digitValue? c = some value) :
    plainDigit c = plainCharacter value := by
  rw [plainDigit, h]
  rfl

theorem plainDigit_of_none {c : Char} (h : digitValue? c = none) : plainDigit c = c := by
  rw [plainDigit, h]

theorem toNat_plainCharacter {value : Nat} (h : value < 10) :
    (plainCharacter value).toNat = 48 + value := by
  revert value
  decide

theorem isDigit_plainCharacter {value : Nat} (h : value < 10) :
    (plainCharacter value).isDigit = true := by
  revert value
  decide

theorem exists_digitValue? {c : Char} (h : (plainDigit c).isDigit = true) :
    ∃ value, digitValue? c = some value := by
  cases hValue : digitValue? c with
  | some value => exact ⟨value, rfl⟩
  | none =>
      rw [plainDigit_of_none hValue] at h
      simp [digitValue?, h] at hValue

/-- Only the character itself is made into one that is no digit. -/
theorem plainDigit_eq_iff {c mark : Char} (hMark : digitValue? mark = none) :
    plainDigit c = mark ↔ c = mark := by
  constructor
  · intro h
    cases hValue : digitValue? c with
    | none => exact (plainDigit_of_none hValue).symm.trans h
    | some value =>
        have hDigit := isDigit_plainCharacter (lt_ten_of_digitValue? hValue)
        rw [← plainDigit_of_digitValue? hValue, h] at hDigit
        simp [digitValue?, hDigit] at hMark
  · rintro rfl
    exact plainDigit_of_none hMark

/-! ## Digits -/

theorem dropUnderscores?_digit {c : Char} {rest : List Char} {afterDigit : Bool}
    (h : c.isDigit = true) :
    dropUnderscores? afterDigit (c :: rest) = (dropUnderscores? true rest).map (c :: ·) := by
  have hMark : c ≠ '_' := by
    rintro rfl
    cases h
  cases rest with
  | nil => simp [dropUnderscores?, hMark]
  | cons next rest => simp [dropUnderscores?, hMark, h]

theorem dropUnderscores?_underscore {c : Char} {rest : List Char} (h : c.isDigit = true) :
    dropUnderscores? true ('_' :: c :: rest) = dropUnderscores? true (c :: rest) := by
  rw [dropUnderscores?_digit h]
  simp [dropUnderscores?, h]

theorem WrittenDigits.lt_ten {characters : List Char} {values : List Nat}
    (h : WrittenDigits characters values) : ∀ value ∈ values, value < 10 := by
  induction h with
  | last hDigit => simpa using lt_ten_of_digitValue? hDigit
  | next hDigit _ ih => simpa using ⟨lt_ten_of_digitValue? hDigit, ih⟩
  | underscore hDigit _ ih => simpa using ⟨lt_ten_of_digitValue? hDigit, ih⟩

theorem WrittenDigits.exists_cons {characters : List Char} {values : List Nat}
    (h : WrittenDigits characters values) :
    ∃ c rest value, characters = c :: rest ∧ digitValue? c = some value := by
  cases h with
  | last hDigit => exact ⟨_, _, _, rfl, hDigit⟩
  | next hDigit _ => exact ⟨_, _, _, rfl, hDigit⟩
  | underscore hDigit _ => exact ⟨_, _, _, rfl, hDigit⟩

/-- Written digits lose their underscores and are plain digits then. -/
theorem WrittenDigits.dropUnderscores? {characters : List Char} {values : List Nat}
    (h : WrittenDigits characters values) (afterDigit : Bool) :
    dropUnderscores? afterDigit (characters.map plainDigit) =
      some (values.map plainCharacter) := by
  induction h generalizing afterDigit with
  | last hDigit =>
      have hPlain := isDigit_plainCharacter (lt_ten_of_digitValue? hDigit)
      rw [List.map_singleton, plainDigit_of_digitValue? hDigit, dropUnderscores?_digit hPlain]
      rfl
  | next hDigit _ ih =>
      have hPlain := isDigit_plainCharacter (lt_ten_of_digitValue? hDigit)
      rw [List.map_cons, plainDigit_of_digitValue? hDigit, dropUnderscores?_digit hPlain, ih]
      rfl
  | @underscore c value rest values hDigit hRest ih =>
      have hPlain := isDigit_plainCharacter (lt_ten_of_digitValue? hDigit)
      obtain ⟨d, after, other, rfl, hOther⟩ := hRest.exists_cons
      have hNext : (plainDigit d).isDigit = true := by
        rw [plainDigit_of_digitValue? hOther]
        exact isDigit_plainCharacter (lt_ten_of_digitValue? hOther)
      have hMark : plainDigit '_' = '_' := plainDigit_of_none (by decide)
      rw [List.map_cons, List.map_cons, plainDigit_of_digitValue? hDigit, hMark,
        dropUnderscores?_digit hPlain, List.map_cons, dropUnderscores?_underscore hNext,
        ← List.map_cons, ih]
      rfl

theorem dropUnderscores?_other {c : Char} {rest : List Char} {afterDigit : Bool}
    (h : c ≠ '_') :
    dropUnderscores? afterDigit (c :: rest) =
      (dropUnderscores? c.isDigit rest).map (c :: ·) := by
  cases rest with
  | nil => simp [dropUnderscores?, h]
  | cons next rest => simp [dropUnderscores?, h]

/-- A digit is written together with what stands behind it, if that is plain
digits once it has lost its underscores. -/
theorem exists_writtenDigits_cons :
    ∀ {c : Char} {value : Nat} {rest digits : List Char}, digitValue? c = some value →
      dropUnderscores? true (rest.map plainDigit) = some digits →
      digits.all Char.isDigit = true → ∃ values, WrittenDigits (c :: rest) (value :: values)
  | c, value, [], digits, hDigit, _, _ => ⟨[], .last hDigit⟩
  | c, value, first :: rest, digits, hDigit, hDrop, hAll => by
      by_cases hMark : first = '_'
      · subst hMark
        rw [List.map_cons, plainDigit_of_none (by decide)] at hDrop
        cases rest with
        | nil => simp [dropUnderscores?] at hDrop
        | cons d after =>
            -- Behind an underscore there has to be a digit, from which the digits go on.
            cases hNext : (plainDigit d).isDigit with
            | false => simp [dropUnderscores?, hNext] at hDrop
            | true =>
                obtain ⟨other, hOther⟩ := exists_digitValue? hNext
                rw [List.map_cons, dropUnderscores?_underscore hNext,
                  dropUnderscores?_digit hNext] at hDrop
                obtain ⟨others, hAfter, rfl⟩ := Option.map_eq_some_iff.mp hDrop
                rw [List.all_cons, Bool.and_eq_true] at hAll
                obtain ⟨values, hValues⟩ := exists_writtenDigits_cons hOther hAfter hAll.2
                exact ⟨_, .underscore hDigit hValues⟩
      · have hPlain : plainDigit first ≠ '_' := fun h =>
          hMark ((plainDigit_eq_iff (by decide)).mp h)
        rw [List.map_cons, dropUnderscores?_other hPlain] at hDrop
        obtain ⟨others, hAfter, rfl⟩ := Option.map_eq_some_iff.mp hDrop
        rw [List.all_cons, Bool.and_eq_true] at hAll
        obtain ⟨other, hOther⟩ := exists_digitValue? hAll.1
        rw [hAll.1] at hAfter
        obtain ⟨values, hValues⟩ := exists_writtenDigits_cons hOther hAfter hAll.2
        exact ⟨_, .next hDigit hValues⟩

/-- Characters that become plain digits are written digits. -/
theorem exists_writtenDigits {characters digits : List Char}
    (hDrop : dropUnderscores? false (characters.map plainDigit) = some digits)
    (hNonempty : digits ≠ []) (hAll : digits.all Char.isDigit = true) :
    ∃ values, WrittenDigits characters values := by
  cases characters with
  | nil =>
      obtain rfl : [] = digits := by simpa [dropUnderscores?] using hDrop
      exact absurd rfl hNonempty
  | cons c rest =>
      have hMark : plainDigit c ≠ '_' := by
        intro h
        rw [List.map_cons, h] at hDrop
        cases rest <;> simp [dropUnderscores?] at hDrop
      rw [List.map_cons, dropUnderscores?_other hMark] at hDrop
      obtain ⟨others, hAfter, rfl⟩ := Option.map_eq_some_iff.mp hDrop
      rw [List.all_cons, Bool.and_eq_true] at hAll
      obtain ⟨value, hValue⟩ := exists_digitValue? hAll.1
      rw [hAll.1] at hAfter
      obtain ⟨values, hValues⟩ := exists_writtenDigits_cons hValue hAfter hAll.2
      exact ⟨_, hValues⟩

theorem digitsValue_map_plainCharacter {values : List Nat} (h : ∀ value ∈ values, value < 10) :
    digitsValue (values.map plainCharacter) = valueOfDigits values := by
  unfold digitsValue valueOfDigits
  rw [List.foldl_map]
  refine List.foldl_ext _ _ _ fun number value hValue => ?_
  rw [toNat_plainCharacter (h value hValue), Nat.add_sub_cancel_left]

/-! ## The whole text -/

theorem map_plainDigit_of_writtenSign {sign : List Char} {factor : Int}
    (h : WrittenSign sign factor) : sign.map plainDigit = sign := by
  cases h <;> decide

/-- Digits are read as such behind a sign, which tells whether to negate. -/
theorem takeSign_of_writtenSign {sign digits : List Char} {factor : Int}
    (hSign : WrittenSign sign factor) (hDigits : ∀ c ∈ digits.head?, c.isDigit = true) :
    takeSign (sign ++ digits) = (decide (factor = -1), digits) := by
  cases hSign with
  | plus => rfl
  | minus => rfl
  | none =>
      cases digits with
      | nil => rfl
      | cons c rest =>
          have hDigit : c.isDigit = true := hDigits c rfl
          have hMinus : c ≠ '-' := by
            rintro rfl
            cases hDigit
          have hPlus : c ≠ '+' := by
            rintro rfl
            cases hDigit
          simp [takeSign, hMinus, hPlus]

/-- An integer of at most 4300 digits is read, and a longer one is refused for its
length. -/
theorem readInteger_of_writesInteger {text : String} {value : Int} {digitCount : Nat}
    (h : WritesInteger text value digitCount) :
    readInteger text =
      if digitCount ≤ digitLimit then .ok value else .error (.tooManyDigits digitCount) := by
  obtain ⟨sign, digits, factor, values, hText, hSign, hDigits, rfl, rfl⟩ := h
  have hCharacters : numberCharacters text = sign ++ digits.map plainDigit := by
    rw [numberCharacters, hText, List.map_append, map_plainDigit_of_writtenSign hSign]
  have hHead : ∀ c ∈ (digits.map plainDigit).head?, c.isDigit = true := by
    obtain ⟨c, rest, value, rfl, hValue⟩ := hDigits.exists_cons
    simpa [plainDigit_of_digitValue? hValue] using
      isDigit_plainCharacter (lt_ten_of_digitValue? hValue)
  have hAll : (values.map plainCharacter).all Char.isDigit = true := by
    rw [List.all_map, List.all_eq_true]
    exact fun value hMem => isDigit_plainCharacter (hDigits.lt_ten value hMem)
  have hNonempty : values ≠ [] := by
    rintro rfl
    cases hDigits
  unfold readInteger
  rw [hCharacters, takeSign_of_writtenSign hSign hHead]
  simp only [hDigits.dropUnderscores? false, hAll, List.isEmpty_map, List.isEmpty_iff, hNonempty,
    List.length_map, digitsValue_map_plainCharacter hDigits.lt_ten, Bool.not_true, Bool.or_false,
    decide_eq_true_eq, if_false, ← Nat.not_le, ite_not]
  cases hSign <;> simp

/-- The sign that a text begins with, and what is behind it. -/
theorem exists_writtenSign (characters : List Char) :
    ∃ sign factor digits, characters = sign ++ digits ∧ WrittenSign sign factor ∧
      takeSign (characters.map plainDigit) = (decide (factor = -1), digits.map plainDigit) := by
  cases characters with
  | nil => exact ⟨[], 1, [], rfl, .none, rfl⟩
  | cons c rest =>
      by_cases hMinus : c = '-'
      · subst hMinus
        refine ⟨['-'], -1, rest, rfl, .minus, ?_⟩
        rw [List.map_cons, plainDigit_of_none (by decide)]
        rfl
      by_cases hPlus : c = '+'
      · subst hPlus
        refine ⟨['+'], 1, rest, rfl, .plus, ?_⟩
        rw [List.map_cons, plainDigit_of_none (by decide)]
        rfl
      refine ⟨[], 1, c :: rest, rfl, .none, ?_⟩
      have hMinusStays : plainDigit c ≠ '-' := fun h =>
        hMinus ((plainDigit_eq_iff (by decide)).mp h)
      have hPlusStays : plainDigit c ≠ '+' := fun h =>
        hPlus ((plainDigit_eq_iff (by decide)).mp h)
      simp [takeSign, hMinusStays, hPlusStays]

/-- Whatever is not refused as no integer is written as one. -/
theorem exists_writesInteger {text : String} (h : readInteger text ≠ .error .notInteger) :
    ∃ value digitCount, WritesInteger text value digitCount := by
  obtain ⟨sign, factor, digits, hTrimmed, hSign, hTake⟩ :=
    exists_writtenSign (trimBoth isNumberBlank text.toList)
  unfold readInteger at h
  rw [numberCharacters, hTake] at h
  dsimp only at h
  cases hDrop : dropUnderscores? false (digits.map plainDigit) with
  | none => simp [hDrop] at h
  | some plain =>
      simp only [hDrop] at h
      split at h
      · exact absurd rfl h
      · rename_i hForm
        rw [Bool.not_eq_true, Bool.or_eq_false_iff, Bool.not_eq_false'] at hForm
        obtain ⟨values, hDigits⟩ := exists_writtenDigits hDrop
          (fun hNil => by simp [hNil] at hForm) hForm.2
        exact ⟨_, _, sign, digits, factor, values, hTrimmed, hSign, hDigits, rfl, rfl⟩

theorem readInteger_eq_notInteger_iff {text : String} :
    readInteger text = .error .notInteger ↔
      ∀ value digitCount, ¬ WritesInteger text value digitCount := by
  constructor
  · intro hRead value digitCount hWritten
    rw [readInteger_of_writesInteger hWritten] at hRead
    split at hRead <;> cases hRead
  · intro hNone
    by_contra hRead
    obtain ⟨value, digitCount, hWritten⟩ := exists_writesInteger hRead
    exact hNone value digitCount hWritten

theorem writtenDigits_replicate :
    ∀ count : Nat, WrittenDigits (List.replicate (count + 1) '0') (List.replicate (count + 1) 0)
  | 0 => .last rfl
  | count + 1 => .next rfl (writtenDigits_replicate count)

theorem foldl_replicate_zero (number : Nat) :
    ∀ count : Nat, (List.replicate count 0).foldl (fun number value => number * 10 + value) number =
      number * 10 ^ count
  | 0 => (Nat.mul_one number).symm
  | count + 1 => by
      rw [List.replicate_succ', List.foldl_append, foldl_replicate_zero number count]
      rw [Nat.pow_succ, ← Nat.mul_assoc]
      rfl

/-- A power of ten as it is written. -/
theorem writesInteger_ten_pow (count : Nat) :
    WritesInteger (String.ofList ('1' :: List.replicate count '0')) (10 ^ count) (count + 1) := by
  have hDigits : WrittenDigits ('1' :: List.replicate count '0') (1 :: List.replicate count 0) := by
    cases count with
    | zero => exact .last rfl
    | succ count => exact .next rfl (writtenDigits_replicate count)
  have hTrim : trimBoth isNumberBlank ('1' :: List.replicate count '0') =
      '1' :: List.replicate count '0' := by
    have hOne : isNumberBlank '1' = false := by decide
    have hZero : isNumberBlank '0' = false := by decide
    have hEnd : (List.replicate count '0' ++ ['1']).dropWhile isNumberBlank =
        List.replicate count '0' ++ ['1'] := by
      cases count with
      | zero => simp [hOne]
      | succ count => simp only [List.replicate_succ, List.cons_append, List.dropWhile_cons, hZero,
          Bool.false_eq_true, if_false]
    rw [trimBoth, List.dropWhile_cons, hOne, if_neg Bool.false_ne_true, List.reverse_cons,
      List.reverse_replicate, hEnd]
    simp
  refine ⟨[], _, 1, _, ?_, .none, hDigits, ?_, ?_⟩
  · rw [String.toList_ofList, hTrim, List.nil_append]
  · rw [valueOfDigits, List.foldl_cons, foldl_replicate_zero]
    simp
  · simp

end PatchCoverage
