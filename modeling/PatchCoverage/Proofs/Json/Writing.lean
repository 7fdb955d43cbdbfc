import PatchCoverage.Json.Printer
import PatchCoverage.Proofs.Json.Reading

namespace PatchCoverage

/-!
# What a document is written as

A document whose numbers are all finite is written as a JSON text that stands for it, and
each number in it as the shortest numeral (`isTextOf_write`).  With what is known of the
reader, writing and reading give the document back (`read?_text`).

The lists and objects of a document are nested as deep as the document is, so that the
induction goes along it, with the items and fields behind the first one in between.
-/

namespace Json

/-! ## Texts in quotes -/

section Strings

theorem hexDigit?_digitChar {digit : Nat} (h : digit < 16) :
    hexDigit? digit.digitChar = some digit := by
  have hAll : ∀ digit < 16, hexDigit? digit.digitChar = some digit := by decide
  exact hAll digit h

/-- Hexadecimal digits end with that of the remainder by sixteen. -/
theorem hexDigits_succ {count : Nat} (h : 0 < count) (value : Nat) :
    hexDigits (count + 1) value = hexDigits count (value / 16) ++ [(value % 16).digitChar] := by
  unfold hexDigits
  rcases Nat.lt_or_ge value 16 with hLess | hMore
  · rw [Nat.div_eq_of_lt hLess, Nat.mod_eq_of_lt hLess, Nat.toDigits_of_lt_base hLess]
    obtain ⟨count, rfl⟩ := Nat.exists_eq_succ_of_ne_zero h.ne'
    simp [List.replicate_succ']
  · rw [Nat.toDigits_of_base_le (by decide) hMore]
    simp

/-- Four hexadecimal digits are read as the unit that they were written for. -/
theorem exists_hexDigits_eq {unit : Nat} (h : unit < 0x10000) :
    ∃ p q r s, hexDigits 4 unit = [p, q, r, s] ∧ hexUnit? p q r s = some unit := by
  have hFirst : hexDigits 1 (unit / 16 / 16 / 16) = [(unit / 16 / 16 / 16).digitChar] := by
    rw [hexDigits, Nat.toDigits_of_lt_base (by omega)]
    rfl
  have hDigits : hexDigits 4 unit = [(unit / 16 / 16 / 16).digitChar,
      (unit / 16 / 16 % 16).digitChar, (unit / 16 % 16).digitChar, (unit % 16).digitChar] := by
    rw [hexDigits_succ (by decide), hexDigits_succ (by decide), hexDigits_succ (by decide), hFirst]
    rfl
  have hUnit : ((unit / 16 / 16 / 16 * 16 + unit / 16 / 16 % 16) * 16 + unit / 16 % 16) * 16 +
      unit % 16 = unit := by omega
  refine ⟨_, _, _, _, hDigits, ?_⟩
  simp only [hexUnit?]
  rw [hexDigit?_digitChar (by omega), hexDigit?_digitChar (by omega),
    hexDigit?_digitChar (by omega), hexDigit?_digitChar (by omega)]
  exact congrArg some hUnit

/-- A character is escaped as one unit or as the two units of a pair. -/
theorem isCharacterOf_escapeUnits (c : Char) : IsCharacterOf c (escapeUnits c.toNat) := by
  have hValid : c.toNat < 0xD800 ∨ 0xDFFF < c.toNat ∧ c.toNat < 0x110000 := c.valid
  unfold escapeUnits
  split
  · next hSmall =>
    obtain ⟨p, q, r, s, hDigits, hUnit⟩ := exists_hexDigits_eq hSmall
    rw [escapeUnit, hDigits]
    exact .unit hUnit
  · next hLarge =>
    have hHigh : (c.toNat - 0x10000) / 1024 < 1024 := by omega
    have hLow : (c.toNat - 0x10000) % 1024 < 1024 := by omega
    obtain ⟨p, q, r, s, hDigits, hFirst⟩ :=
      exists_hexDigits_eq (show 0xD800 + (c.toNat - 0x10000) / 1024 < 0x10000 by omega)
    obtain ⟨p', q', r', s', hDigits', hSecond⟩ :=
      exists_hexDigits_eq (show 0xDC00 + (c.toNat - 0x10000) % 1024 < 0x10000 by omega)
    rw [escapeUnit, escapeUnit, hDigits, hDigits']
    exact .pair hFirst hSecond hHigh hLow (by omega)

/-- What is written for a character stands for it. -/
theorem isCharacterOf_writeCharacter (alphabet : Alphabet) (c : Char) :
    IsCharacterOf c (writeCharacter alphabet c) := by
  fun_cases writeCharacter alphabet c with
  | case1 hMark =>
      rw [Bool.or_eq_true, decide_eq_true_eq, decide_eq_true_eq] at hMark
      rcases hMark with rfl | rfl <;> exact .letter rfl
  | case2 _ hShort => exact .letter (by rw [hShort]; rfl)
  | case3 _ _ hShort => exact .letter (by rw [hShort]; rfl)
  | case4 _ _ _ hShort => exact .letter (by rw [hShort]; rfl)
  | case5 _ _ _ _ hShort => exact .letter (by rw [hShort]; rfl)
  | case6 _ _ _ _ _ hShort => exact .letter (by rw [hShort]; rfl)
  | case7 => exact isCharacterOf_escapeUnits c
  | case8 hMark _ _ _ _ _ hPlain =>
      rw [Bool.or_eq_true, decide_eq_true_eq, decide_eq_true_eq, not_or] at hMark
      rw [Bool.or_eq_true, not_or, decide_eq_true_eq] at hPlain
      exact .plain hMark.1 hMark.2 (UInt32.not_lt.mp hPlain.1)

theorem isStringOf_writeString (alphabet : Alphabet) (value : String) :
    IsStringOf value (writeString alphabet value) := by
  refine ⟨value.toList.map (writeCharacter alphabet), ?_, by simp [writeString, List.flatMap_def]⟩
  exact List.forall₂_map_right_iff.mpr (List.forall₂_same.mpr fun c _ =>
    isCharacterOf_writeCharacter alphabet c)

end Strings

/-! ## Numerals -/

theorem isNumberOf_integerText (Form : Binary64 → Bool → Numeral → Prop) (value : Int) :
    IsNumberOf Form (.integer value) (integerText value).toList := by
  have hInteger := fun negative =>
    @IsNumberOf.integer Form negative _ (isWhole_decimalDigits value.natAbs)
  simp only [digitsValue_decimalDigits] at hInteger
  rw [integerText, String.toList_ofList]
  split
  · have hNegative := hInteger true
    rwa [if_pos rfl, show -(value.natAbs : Int) = value by omega] at hNegative
  · have hPositive := hInteger false
    rwa [if_neg (by decide), show (value.natAbs : Int) = value by omega] at hPositive

theorem isNumberOf_writeNumber {value : Binary64} (h : value.isFinite = true) :
    IsNumberOf Numeral.IsShortest (.number value) (writeNumber value) := by
  obtain ⟨negative, n, hWritten, hFractional, rfl, hShortest⟩ := exists_isShortest h
  have hText : writeNumber (n.value negative) = minusSign negative ++ n.text := by
    rw [← hShortest.1]
    cases hValue : n.value negative with
    | finite => rfl
    | nan => rw [hValue] at h; cases h
    | infinity => rw [hValue] at h; cases h
  rw [hText]
  exact .number negative hWritten hFractional hShortest

/-! ## Documents -/

mutual

/-- The numbers of a document. -/
def numbers : Json → List Binary64
  | .number value => [value]
  | .array items => itemNumbers items
  | .object fields => fieldNumbers fields
  | _ => []

/-- The numbers of the items of a list. -/
def itemNumbers : List Json → List Binary64
  | [] => []
  | item :: items => numbers item ++ itemNumbers items

/-- The numbers of the fields of an object. -/
def fieldNumbers : List (String × Json) → List Binary64
  | [] => []
  | (_, value) :: fields => numbers value ++ fieldNumbers fields

end

theorem mem_itemNumbers_iff {value : Binary64} {items : List Json} :
    value ∈ itemNumbers items ↔ ∃ item ∈ items, value ∈ numbers item := by
  induction items with
  | nil => simp [itemNumbers]
  | cons item items ih => simp [itemNumbers, ih]

theorem isLayout_lineBreak (level : Nat) : IsLayout (lineBreak level) := by
  refine List.forall_mem_cons.mpr ⟨rfl, fun c hC => ?_⟩
  rw [List.eq_of_mem_replicate hC]
  rfl

section Documents

variable {Form : Binary64 → Bool → Numeral → Prop} {before text after : List Char}

/-- A field as it is written: no white space before the colon, and a blank behind it. -/
theorem isFieldOf_written {name : String} {value : Json} (hBefore : IsLayout before)
    (alphabet : Alphabet) (hValue : IsValueOf Form value text) (hAfter : IsLayout after) :
    IsFieldOf Form (name, value)
      (before ++ (writeString alphabet name ++ ':' :: ' ' :: (text ++ after))) :=
  .named hBefore (isStringOf_writeString alphabet name) isLayout_nil
    (.padded isLayout_blank hValue hAfter)

variable (alphabet : Alphabet)

mutual

/-- A document is written as a value of the grammar. -/
theorem isValueOf_write (level : Nat) (document : Json)
    (h : ∀ value ∈ numbers document, value.isFinite = true) :
    IsValueOf Numeral.IsShortest document (write alphabet level document) := by
  match document with
  | .null => exact .null
  | .bool true => exact .yes
  | .bool false => exact .no
  | .integer value => exact .number (isNumberOf_integerText _ value)
  | .number value =>
      exact .number (isNumberOf_writeNumber (h value (by simp [numbers])))
  | .string value => exact .string (isStringOf_writeString alphabet value)
  | .array [] => exact .noItems isLayout_nil
  | .array (item :: items) =>
      rw [numbers, itemNumbers, List.forall_mem_append] at h
      obtain ⟨inner, hInner, hItems⟩ := isItemsOf_writeItems level (isLayout_lineBreak (level + 1))
        (isValueOf_write (level + 1) item h.1) items h.2
      have hArray := IsValueOf.array hItems
      rw [← hInner] at hArray
      simpa [write] using hArray
  | .object [] => exact .noFields isLayout_nil
  | .object ((name, value) :: fields) =>
      rw [numbers, fieldNumbers, List.forall_mem_append] at h
      obtain ⟨inner, hInner, hFields⟩ := isFieldsOf_writeFields level name
        (isLayout_lineBreak (level + 1)) (isValueOf_write (level + 1) value h.1) fields h.2
      have hObject := IsValueOf.object hFields
      rw [← hInner] at hObject
      simpa [write] using hObject

/-- An item that is written, and the ones behind it, are items up to the end of the list. -/
theorem isItemsOf_writeItems (level : Nat) {item : Json} {before text : List Char}
    (hBefore : IsLayout before) (hItem : IsValueOf Numeral.IsShortest item text)
    (items : List Json) (h : ∀ value ∈ itemNumbers items, value.isFinite = true) :
    ∃ inner, before ++ (text ++ writeItems alphabet level items) = inner ++ [']'] ∧
      IsItemsOf Numeral.IsShortest (item :: items) inner := by
  match items with
  | [] =>
      exact ⟨_, by simp [writeItems], .last (.padded hBefore hItem (isLayout_lineBreak level))⟩
  | next :: items =>
      rw [itemNumbers, List.forall_mem_append] at h
      obtain ⟨inner, hInner, hItems⟩ := isItemsOf_writeItems level (isLayout_lineBreak (level + 1))
        (isValueOf_write (level + 1) next h.1) items h.2
      refine ⟨_, ?_, .more (.padded hBefore hItem isLayout_nil) hItems⟩
      simp [writeItems, ← hInner]

/-- A field that is written, and the ones behind it, are fields up to the end of the
object. -/
theorem isFieldsOf_writeFields (level : Nat) (name : String) {value : Json}
    {before text : List Char} (hBefore : IsLayout before)
    (hValue : IsValueOf Numeral.IsShortest value text) (fields : List (String × Json))
    (h : ∀ value ∈ fieldNumbers fields, value.isFinite = true) :
    ∃ inner, before ++ (writeString alphabet name ++ ':' :: ' ' ::
        (text ++ writeFields alphabet level fields)) = inner ++ ['}'] ∧
      IsFieldsOf Numeral.IsShortest ((name, value) :: fields) inner := by
  match fields with
  | [] =>
      exact ⟨_, by simp [writeFields],
        .last (isFieldOf_written hBefore alphabet hValue (isLayout_lineBreak level))⟩
  | (nextName, next) :: fields =>
      rw [fieldNumbers, List.forall_mem_append] at h
      obtain ⟨inner, hInner, hFields⟩ := isFieldsOf_writeFields level nextName
        (isLayout_lineBreak (level + 1)) (isValueOf_write (level + 1) next h.1) fields h.2
      refine ⟨_, ?_, .more (isFieldOf_written hBefore alphabet hValue isLayout_nil) hFields⟩
      simp [writeFields, ← hInner]

end

/-- What is written for a document with finite numbers alone is a JSON text that stands for
it, with the shortest numeral for each number. -/
theorem isTextOf_write (document : Json) (h : ∀ value ∈ numbers document, value.isFinite = true) :
    IsTextOf Numeral.IsShortest document (document.text alphabet).toList := by
  rw [text, String.toList_ofList]
  have hText := IsTextOf.padded isLayout_nil (isValueOf_write alphabet 0 document h) isLayout_nil
  rwa [List.nil_append, List.append_nil] at hText

/-- Reading what was written gives the document back. -/
theorem read?_text (document : Json) (h : ∀ value ∈ numbers document, value.isFinite = true) :
    read? (document.text alphabet) = some document :=
  read?_of_isTextOf (isTextOf_write alphabet document h)

example : (array [string "\"\\\n\x01é", number (.ofNat 50), object []]).text .ascii =
    "[\n  \"\\\"\\\\\\n\\u0001\\u00e9\",\n  50.0,\n  \x7b\x7d\n]" := by
  decide +kernel

end Documents

end Json

end PatchCoverage
