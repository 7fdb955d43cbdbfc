import Mathlib.Data.List.DropRight
import PatchCoverage.Proofs.Json.Grammar

namespace PatchCoverage

/-!
# Reading every JSON text

The reader answers every text of the grammar with the document that the text stands for
(`read?_of_isTextOf`), so that a text stands for one document at most.

A part of a document is read in front of anything that does not go on with it, and leaves
exactly that.  The induction is on the fuel: the length of a part is enough for it, since
the parts inside it are shorter.
-/

namespace Json

/-! ## Texts in quotes -/

section Strings

variable {c : Char} {written characters rest : List Char}

theorem ne_u_of_shortEscape? {letter : Char} (h : shortEscape? letter = some c) :
    letter ≠ 'u' := by
  rintro rfl
  cases h

/-- The unit of a character is no half of a pair. -/
theorem pushUnit_toNat (c : Char) (characters : List Char) :
    pushUnit none c.toNat characters = (none, c :: characters) := by
  have hValid : c.toNat < 0xD800 ∨ 0xDFFF < c.toNat ∧ c.toNat < 0x110000 := c.valid
  have hHigh : isHighUnit c.toNat = false := by
    rw [isHighUnit, Bool.and_eq_false_iff, decide_eq_false_iff_not, decide_eq_false_iff_not]
    omega
  have hAlone : (0xD800 ≤ c.toNat && c.toNat < 0xE000) = false := by
    rw [Bool.and_eq_false_iff, decide_eq_false_iff_not, decide_eq_false_iff_not]
    omega
  simp only [pushUnit, hHigh, unitCharacter, hAlone, Bool.false_eq_true, if_false, Char.ofNat_toNat]

/-- The first half of a pair waits for the second. -/
theorem pushUnit_high {high : Nat} (h : high < 1024) (characters : List Char) :
    pushUnit none (0xD800 + high) characters = (some (0xD800 + high), characters) := by
  refine if_pos ?_
  rw [isHighUnit, Bool.and_eq_true, decide_eq_true_eq, decide_eq_true_eq]
  omega

/-- The second half makes up a character with the first. -/
theorem pushUnit_low {high low : Nat} (hLow : low < 1024)
    (h : c.toNat = 0x10000 + high * 1024 + low) (characters : List Char) :
    pushUnit (some (0xD800 + high)) (0xDC00 + low) characters = (none, c :: characters) := by
  have hUnit : (0xDC00 ≤ 0xDC00 + low && 0xDC00 + low < 0xE000) = true := by
    rw [Bool.and_eq_true, decide_eq_true_eq, decide_eq_true_eq]
    omega
  simp only [pushUnit, hUnit, if_true, Nat.add_sub_cancel_left, ← h, Char.ofNat_toNat]

theorem readString_unit {p q r s : Char} {unit : Nat} (h : hexUnit? p q r s = some unit)
    (pending : Option Nat) :
    readString pending characters ('\\' :: 'u' :: p :: q :: r :: s :: rest) =
      let pushed := pushUnit pending unit characters
      readString pushed.1 pushed.2 rest := by
  simp only [readString, h]

/-- One character of a text is read as itself. -/
theorem readString_character (h : IsCharacterOf c written) :
    readString none characters (written ++ rest) = readString none (c :: characters) rest := by
  cases h with
  | plain hQuote hBackslash hControl =>
      have hAllowed : (c.val < 32 || c = '\\') = false := by
        simp [hBackslash, UInt32.not_lt.mpr hControl]
      rw [List.singleton_append, readString]
      · simp [hAllowed, settle]
      · exact hQuote
      · exact fun _ _ _ _ _ hSame _ => hBackslash hSame
      · exact fun _ _ hSame _ => hBackslash hSame
  | letter h =>
      rw [List.cons_append, List.singleton_append, readString]
      · simp [h, settle]
      · exact fun _ _ _ _ _ hSame => absurd hSame (ne_u_of_shortEscape? h)
  | unit h =>
      simp only [List.cons_append, List.nil_append, readString_unit h, pushUnit_toNat]
  | pair hFirst hSecond hHigh hLow h =>
      simp only [List.cons_append, List.nil_append, readString_unit hFirst, pushUnit_high hHigh,
        readString_unit hSecond, pushUnit_low hLow h]

theorem readString_flatten {parts : List (List Char)} {value : List Char}
    (h : List.Forall₂ IsCharacterOf value parts) (characters rest : List Char) :
    readString none characters (parts.flatten ++ '"' :: rest) =
      some (String.ofList (characters.reverse ++ value), rest) := by
  induction h generalizing characters with
  | nil => simp [readString, settle]
  | cons hFirst hRest ih =>
      rw [List.flatten_cons, List.append_assoc, readString_character hFirst, ih,
        List.reverse_cons, List.append_assoc, List.singleton_append]

/-- A text in quotes is read behind its opening quote. -/
theorem exists_readString {value : String} {text : List Char} (h : IsStringOf value text)
    (rest : List Char) :
    ∃ inner, text ++ rest = '"' :: inner ∧ readString none [] inner = some (value, rest) := by
  obtain ⟨parts, hParts, rfl⟩ := h
  refine ⟨parts.flatten ++ '"' :: rest, by simp, ?_⟩
  rw [readString_flatten hParts, List.reverse_nil, List.nil_append, String.ofList_toList]

end Strings

/-! ## Numerals -/

section Numerals

variable {Form : Binary64 → Bool → Numeral → Prop} {digits text : List Char} {n : Numeral}
  {document : Json}

theorem isWholePart_eq_true (h : IsWhole digits) : isWholePart digits = true := by
  unfold isWholePart
  split
  · exact absurd rfl h.nonempty
  · rfl
  · next rest hZero => exact absurd (h.lead rfl) (by simpa using hZero)
  · exact List.all_eq_true.mpr h.digits

theorem head?_isDigit_of_isWhole (h : IsWhole digits) (rest : List Char) :
    ∀ c ∈ (digits ++ rest).head?, c.isDigit = true := by
  intro c hC
  rw [List.head?_append_of_ne_nil _ h.nonempty] at hC
  exact h.digits c (List.mem_of_mem_head? hC)

/-- What a magnitude is read as behind its sign. -/
theorem numeral?_minusSign (negative : Bool) (hHead : ∀ c ∈ text.head?, c.isDigit = true) :
    numeral? (minusSign negative ++ text) =
      if !isWholePart (text.takeWhile Char.isDigit) then none
      else
        match text.dropWhile Char.isDigit with
        | [] =>
          let value : Int := digitsValue (text.takeWhile Char.isDigit)
          some (integer (if negative then -value else value))
        | '.' :: places =>
          if places.takeWhile Char.isDigit = [] then none
          else (readDecimal? text).map fun parts => number (parts.toBinary64 negative)
        | _ => (readDecimal? text).map fun parts => number (parts.toBinary64 negative) := by
  cases negative with
  | true => rfl
  | false =>
      rw [minusSign, if_neg (by decide), List.nil_append]
      unfold numeral?
      split
      next negative magnitude hSign =>
        split at hSign
        · exact absurd (hHead '-' rfl) (by decide)
        · obtain ⟨rfl, rfl⟩ := Prod.mk.inj hSign
          rfl

theorem numeral?_integer (negative : Bool) (h : IsWhole digits) :
    numeral? (minusSign negative ++ digits) =
      some (.integer (if negative then -(digitsValue digits : Int) else digitsValue digits)) := by
  have hNone : ∀ c ∈ ([] : List Char).head?, c.isDigit = false := by simp
  obtain ⟨hTake, hDrop⟩ := takeWhile_append_of_head? h.digits hNone
  rw [List.append_nil] at hTake hDrop
  have hHead := head?_isDigit_of_isWhole h []
  rw [List.append_nil] at hHead
  rw [numeral?_minusSign negative hHead, hTake, hDrop, isWholePart_eq_true h]
  rfl

theorem numeral?_text (negative : Bool) (h : n.IsWritten) (hFractional : n.IsFractional) :
    numeral? (minusSign negative ++ n.text) = some (.number (n.value negative)) := by
  obtain ⟨hTake, hDrop⟩ := takeWhile_append_of_head? h.whole.digits h.head?_rest
  have hRead : (readDecimal? n.text).map (fun parts => number (parts.toBinary64 negative)) =
      some (.number (n.value negative)) := by
    rw [Numeral.readDecimal?_text h, Option.map_some,
      Binary64.toBinary64_eq_ofDecimal negative h.digits]
    rfl
  have hWhole := isWholePart_eq_true h.whole
  have hHead : ∀ c ∈ n.text.head?, c.isDigit = true := head?_isDigit_of_isWhole h.whole _
  rw [numeral?_minusSign negative hHead, hRead]
  simp only [Numeral.text, hTake, hDrop, hWhole, Bool.not_true, Bool.false_eq_true, if_false]
  rcases n.fraction_append_power with ⟨hPlaces, hRest⟩ | ⟨hPlaces, hRest⟩
  · rw [hRest]
    split
    · next hNone => exact absurd hNone (hFractional.resolve_left (not_not_intro hPlaces))
    · next rest hPoint => exact absurd hPoint (h.power.ne_point rest)
    · rfl
  · obtain ⟨hTakePlaces, -⟩ := takeWhile_append_of_head? h.places h.head?_power
    simp only [hRest, hTakePlaces, hPlaces, if_false]

theorem isNumberCharacter_of_isDigit {c : Char} (h : c.isDigit = true) :
    isNumberCharacter c = true := by
  simp only [isNumberCharacter, h, Bool.true_or]

theorem isNumberCharacter_minusSign (negative : Bool) :
    ∀ c ∈ minusSign negative, isNumberCharacter c = true := by
  cases negative <;> simp [minusSign, isNumberCharacter]

theorem isNumberCharacter_of_isPower {power : List Char} {exponent : Int}
    (h : IsPower power exponent) : ∀ c ∈ power, isNumberCharacter c = true := by
  cases h with
  | none => simp
  | some hMark hSign hDigits hNonempty =>
      refine List.forall_mem_cons.mpr ⟨?_, List.forall_mem_append.mpr ⟨?_, fun c hC =>
        isNumberCharacter_of_isDigit (hDigits c hC)⟩⟩
      · rcases hMark with rfl | rfl <;> rfl
      · cases hSign <;> simp [isNumberCharacter]

theorem isNumberCharacter_of_isNumberOf (h : IsNumberOf Form document text) :
    ∀ c ∈ text, isNumberCharacter c = true := by
  cases h with
  | integer negative hDigits =>
      exact List.forall_mem_append.mpr ⟨isNumberCharacter_minusSign negative, fun c hC =>
        isNumberCharacter_of_isDigit (hDigits.digits c hC)⟩
  | @number negative n hWritten hFractional hForm =>
      refine List.forall_mem_append.mpr ⟨isNumberCharacter_minusSign negative,
        List.forall_mem_append.mpr ⟨fun c hC =>
          isNumberCharacter_of_isDigit (hWritten.whole.digits c hC), ?_⟩⟩
      have hPower := isNumberCharacter_of_isPower hWritten.power
      rcases n.fraction_append_power with ⟨-, hRest⟩ | ⟨-, hRest⟩ <;> rw [hRest]
      · exact hPower
      · exact List.forall_mem_cons.mpr ⟨rfl, List.forall_mem_append.mpr ⟨fun c hC =>
          isNumberCharacter_of_isDigit (hWritten.places c hC), hPower⟩⟩

/-- A numeral begins with a minus sign or a digit. -/
theorem exists_cons_of_isNumberOf (h : IsNumberOf Form document text) :
    ∃ c rest, text = c :: rest ∧ (c = '-' ∨ c.isDigit = true) := by
  obtain ⟨negative, digits, rest, hDigits, rfl⟩ : ∃ (negative : Bool) (digits rest : List Char),
      IsWhole digits ∧ text = minusSign negative ++ (digits ++ rest) := by
    cases h with
    | integer negative hDigits => exact ⟨negative, _, [], hDigits, by rw [List.append_nil]⟩
    | number negative hWritten hFractional hForm => exact ⟨negative, _, _, hWritten.whole, rfl⟩
  cases negative with
  | true => exact ⟨'-', _, rfl, .inl rfl⟩
  | false =>
      obtain ⟨c, more, rfl⟩ := List.exists_cons_of_ne_nil hDigits.nonempty
      exact ⟨c, _, rfl, .inr (hDigits.digits c List.mem_cons_self)⟩

theorem numeral?_of_isNumberOf (h : IsNumberOf Form document text) :
    numeral? text = some document := by
  cases h with
  | integer negative hDigits => exact numeral?_integer negative hDigits
  | number negative hWritten hFractional hForm => exact numeral?_text negative hWritten hFractional

end Numerals

/-! ## Documents -/

section Documents

variable {Form : Binary64 → Bool → Numeral → Prop} {fuel : Nat} {document : Json}
  {layout text rest : List Char}

theorem skipLayout_append (h : IsLayout layout) (rest : List Char) :
    skipLayout (layout ++ rest) = skipLayout rest :=
  List.dropWhile_append_of_pos h

theorem skipLayout_cons {c : Char} (h : isLayout c = false) (rest : List Char) :
    skipLayout (c :: rest) = c :: rest :=
  List.dropWhile_cons_of_neg (by simp [h])

theorem skipLayout_skipLayout (characters : List Char) :
    skipLayout (skipLayout characters) = skipLayout characters :=
  List.dropWhile_idempotent isLayout characters

/-- White space in front of a document is passed over. -/
theorem readValue_skipLayout (fuel : Nat) (characters : List Char) :
    readValue fuel (skipLayout characters) = readValue fuel characters := by
  cases fuel with
  | zero => rfl
  | succ fuel => simp only [readValue, skipLayout_skipLayout]

theorem readItems_skipLayout (fuel : Nat) (before : List Json) (characters : List Char) :
    readItems fuel before (skipLayout characters) = readItems fuel before characters := by
  cases fuel with
  | zero => rfl
  | succ fuel => simp only [readItems, readValue_skipLayout]

theorem readFields_skipLayout (fuel : Nat) (before : List (String × Json))
    (characters : List Char) :
    readFields fuel before (skipLayout characters) = readFields fuel before characters := by
  cases fuel with
  | zero => rfl
  | succ fuel => simp only [readFields, skipLayout_skipLayout]

theorem isLayout_of_isNumberStart {c : Char} (h : c = '-' ∨ c.isDigit = true) :
    isLayout c = false := by
  rcases h with rfl | hDigit
  · rfl
  · refine Bool.eq_false_iff.mpr fun hLayout => ?_
    simp only [isLayout, Bool.or_eq_true, beq_iff_eq] at hLayout
    rcases hLayout with ((rfl | rfl) | rfl) | rfl <;> cases hDigit

theorem ne_of_isNumberStart {c other : Char} (h : c = '-' ∨ c.isDigit = true)
    (hMinus : other ≠ '-') (hDigit : other.isDigit = false) : c ≠ other := by
  rintro rfl
  rcases h with hSame | hSame
  · exact hMinus hSame
  · rw [hDigit] at hSame
    cases hSame

/-- What begins like a numeral is read as one. -/
theorem readValue_numeral {c : Char} (h : c = '-' ∨ c.isDigit = true) (fuel : Nat)
    (rest : List Char) :
    readValue (fuel + 1) (c :: rest) =
      (numeral? ((c :: rest).takeWhile isNumberCharacter)).map fun value =>
        (value, (c :: rest).dropWhile isNumberCharacter) := by
  have hNe {other : Char} (hMinus : other ≠ '-') (hDigit : other.isDigit = false)
      {more tail : List Char} : c :: more ≠ other :: tail := fun hSame =>
    ne_of_isNumberStart h hMinus hDigit (List.cons.inj hSame).1
  rw [readValue, skipLayout_cons (isLayout_of_isNumberStart h)]
  split
  · next hSame => exact absurd hSame (hNe (by decide) (by decide))
  · next hSame => exact absurd hSame (hNe (by decide) (by decide))
  · next hSame => exact absurd hSame (hNe (by decide) (by decide))
  · next hSame => exact absurd hSame (hNe (by decide) (by decide))
  · next hSame => exact absurd hSame (hNe (by decide) (by decide))
  · next hSame => exact absurd hSame (hNe (by decide) (by decide))
  · rfl

/-- A document begins with a character that is neither white space nor the end of a
list. -/
theorem exists_cons_of_isValueOf (h : IsValueOf Form document text) :
    ∃ c rest, text = c :: rest ∧ isLayout c = false ∧ c ≠ ']' := by
  cases h with
  | null => exact ⟨_, _, rfl, rfl, by decide⟩
  | yes => exact ⟨_, _, rfl, rfl, by decide⟩
  | no => exact ⟨_, _, rfl, rfl, by decide⟩
  | number h =>
      obtain ⟨c, rest, rfl, hFirst⟩ := exists_cons_of_isNumberOf h
      exact ⟨c, rest, rfl, isLayout_of_isNumberStart hFirst,
        ne_of_isNumberStart hFirst (by decide) (by decide)⟩
  | string h =>
      obtain ⟨parts, -, rfl⟩ := h
      exact ⟨_, _, rfl, rfl, by decide⟩
  | noItems hLayout => exact ⟨_, _, rfl, rfl, by decide⟩
  | array h => exact ⟨_, _, rfl, rfl, by decide⟩
  | noFields hLayout => exact ⟨_, _, rfl, rfl, by decide⟩
  | object h => exact ⟨_, _, rfl, rfl, by decide⟩

/-- What may follow a document: nothing that goes on with a numeral. -/
def EndsNumeral (rest : List Char) : Prop :=
  ∀ c ∈ rest.head?, isNumberCharacter c = false

theorem isNumberCharacter_of_isLayout {c : Char} (h : isLayout c = true) :
    isNumberCharacter c = false := by
  simp only [isLayout, Bool.or_eq_true, beq_iff_eq] at h
  rcases h with ((rfl | rfl) | rfl) | rfl <;> rfl

theorem EndsNumeral.append (hLayout : IsLayout layout) (h : EndsNumeral rest) :
    EndsNumeral (layout ++ rest) := by
  cases layout with
  | nil => exact h
  | cons c more =>
      intro c hC
      obtain rfl : _ = c := Option.some.inj hC
      exact isNumberCharacter_of_isLayout (hLayout _ List.mem_cons_self)

theorem EndsNumeral.cons {c : Char} (h : isNumberCharacter c = false) (rest : List Char) :
    EndsNumeral (c :: rest) := by
  intro other hOther
  rwa [← Option.some.inj hOther]

section Fuel

variable (Form) (fuel)

/-- With this much fuel, documents are read. -/
def ReadsValues : Prop :=
  ∀ ⦃document : Json⦄ ⦃text rest : List Char⦄, IsValueOf Form document text →
    text.length ≤ fuel → EndsNumeral rest → readValue fuel (text ++ rest) = some (document, rest)

/-- With this much fuel, items up to the end of their list are read. -/
def ReadsItems : Prop :=
  ∀ ⦃items : List Json⦄ ⦃text : List Char⦄ (before : List Json) (rest : List Char),
    IsItemsOf Form items text → text.length < fuel →
      readItems fuel before (text ++ ']' :: rest) = some (.array (before.reverse ++ items), rest)

/-- With this much fuel, fields up to the end of their object are read. -/
def ReadsFields : Prop :=
  ∀ ⦃fields : List (String × Json)⦄ ⦃text : List Char⦄ (before : List (String × Json))
    (rest : List Char), IsFieldsOf Form fields text → text.length < fuel →
      readFields fuel before (text ++ '}' :: rest) =
        some (.object (before.reverse ++ fields), rest)

end Fuel

/-- A document with white space around it is read up to that behind it. -/
theorem ReadsValues.padded (h : ReadsValues Form fuel) (hText : IsTextOf Form document text)
    (hFuel : text.length ≤ fuel) (rest : List Char) (hRest : EndsNumeral rest) :
    ∃ after, IsLayout after ∧ readValue fuel (text ++ rest) = some (document, after ++ rest) := by
  cases hText with
  | @padded _ before inner after hBefore hValue hAfter =>
      refine ⟨after, hAfter, ?_⟩
      simp only [List.length_append] at hFuel
      rw [List.append_assoc, List.append_assoc, ← readValue_skipLayout, skipLayout_append hBefore,
        readValue_skipLayout]
      exact h hValue (by omega) (hRest.append hAfter)

theorem readsItems_succ (hValues : ReadsValues Form fuel) (hItems : ReadsItems Form fuel) :
    ReadsItems Form (fuel + 1) := by
  intro items text before rest h hFuel
  cases h with
  | @last item text hItem =>
      obtain ⟨after, hAfter, hRead⟩ := hValues.padded hItem (by omega) (']' :: rest)
        (.cons (by decide) rest)
      simp only [readItems, hRead, skipLayout_append hAfter, skipLayout_cons (c := ']') (by decide),
        List.reverse_cons]
  | @more item items text more hItem hMore =>
      simp only [List.length_append, List.length_cons] at hFuel
      obtain ⟨after, hAfter, hRead⟩ := hValues.padded hItem (by omega)
        (',' :: (more ++ ']' :: rest)) (.cons (by decide) _)
      simp only [List.append_assoc, List.cons_append, readItems, hRead, skipLayout_append hAfter,
        skipLayout_cons (c := ',') (by decide)]
      rw [hItems (item :: before) rest hMore (by omega), List.reverse_cons, List.append_assoc,
        List.singleton_append]

/-- What is read of a field: its name, and its document up to the white space behind it. -/
theorem readsFields_field (hValues : ReadsValues Form fuel) {field : String × Json}
    (hField : IsFieldOf Form field text) (hFuel : text.length ≤ fuel) (rest : List Char)
    (hRest : EndsNumeral rest) :
    ∃ inner behind after, skipLayout (text ++ rest) = '"' :: inner ∧
      readString none [] inner = some (field.1, behind) ∧
      ∃ colon, skipLayout behind = ':' :: colon ∧ IsLayout after ∧
        readValue fuel colon = some (field.2, after ++ rest) := by
  cases hField with
  | @named name value before nameText behind text hBefore hName hBehind hValue =>
      simp only [List.length_append, List.length_cons] at hFuel
      obtain ⟨after, hAfter, hRead⟩ := hValues.padded hValue (by omega) rest hRest
      obtain ⟨inner, hQuote, hString⟩ := exists_readString hName (behind ++ ':' :: (text ++ rest))
      refine ⟨inner, _, after, ?_, hString, _, ?_, hAfter, hRead⟩
      · simp only [List.append_assoc, List.cons_append, skipLayout_append hBefore, hQuote]
        exact skipLayout_cons (by decide) inner
      · rw [skipLayout_append hBehind, skipLayout_cons (by decide)]

theorem readsFields_succ (hValues : ReadsValues Form fuel) (hFields : ReadsFields Form fuel) :
    ReadsFields Form (fuel + 1) := by
  intro fields text before rest h hFuel
  cases h with
  | @last field text hField =>
      obtain ⟨inner, behind, after, hQuote, hName, colon, hColon, hAfter, hRead⟩ :=
        readsFields_field hValues hField (by omega) ('}' :: rest) (.cons (by decide) rest)
      simp only [readFields, hQuote, hName, hColon, hRead, skipLayout_append hAfter,
        skipLayout_cons (c := '}') (by decide), List.reverse_cons]
  | @more field fields text more hField hMore =>
      simp only [List.length_append, List.length_cons] at hFuel
      obtain ⟨inner, behind, after, hQuote, hName, colon, hColon, hAfter, hRead⟩ :=
        readsFields_field hValues hField (by omega) (',' :: (more ++ '}' :: rest))
          (.cons (by decide) _)
      simp only [List.append_assoc, List.cons_append, readFields, hQuote, hName, hColon, hRead,
        skipLayout_append hAfter, skipLayout_cons (c := ',') (by decide)]
      rw [hFields ((field.1, field.2) :: before) rest hMore (by omega), List.reverse_cons,
        List.append_assoc, List.singleton_append]

/-- Items do not begin with the end of their list. -/
theorem skipLayout_of_isItemsOf {items : List Json} (h : IsItemsOf Form items text)
    (rest : List Char) : ∃ c more, skipLayout (text ++ rest) = c :: more ∧ c ≠ ']' := by
  obtain ⟨item, itemText, tail, hItem, rfl⟩ :
      ∃ item itemText tail, IsTextOf Form item itemText ∧ text = itemText ++ tail := by
    cases h with
    | last hItem => exact ⟨_, _, [], hItem, by rw [List.append_nil]⟩
    | more hItem hMore => exact ⟨_, _, _, hItem, rfl⟩
  cases hItem with
  | padded hBefore hValue hAfter =>
      obtain ⟨c, more, rfl, hLayout, hEnd⟩ := exists_cons_of_isValueOf hValue
      simp only [List.append_assoc, List.cons_append, skipLayout_append hBefore,
        skipLayout_cons hLayout]
      exact ⟨c, _, rfl, hEnd⟩

/-- Fields begin with a quote. -/
theorem skipLayout_of_isFieldsOf {fields : List (String × Json)} (h : IsFieldsOf Form fields text)
    (rest : List Char) : ∃ more, skipLayout (text ++ rest) = '"' :: more := by
  obtain ⟨field, fieldText, tail, hField, rfl⟩ :
      ∃ field fieldText tail, IsFieldOf Form field fieldText ∧ text = fieldText ++ tail := by
    cases h with
    | last hField => exact ⟨_, _, [], hField, by rw [List.append_nil]⟩
    | more hField hMore => exact ⟨_, _, _, hField, rfl⟩
  cases hField with
  | named hBefore hName hBehind hValue =>
      obtain ⟨parts, -, rfl⟩ := hName
      simp only [List.append_assoc, List.cons_append, skipLayout_append hBefore,
        skipLayout_cons (c := '"') (by decide)]
      exact ⟨_, rfl⟩

theorem readsValues_succ (hItems : ReadsItems Form fuel) (hFields : ReadsFields Form fuel) :
    ReadsValues Form (fuel + 1) := by
  intro document text rest h hFuel hRest
  cases h with
  | null => rfl
  | yes => rfl
  | no => rfl
  | number h =>
      obtain ⟨c, more, hCons, hFirst⟩ := exists_cons_of_isNumberOf h
      obtain ⟨hTake, hDrop⟩ := takeWhile_append_of_head? (isNumberCharacter_of_isNumberOf h) hRest
      rw [hCons, List.cons_append] at hTake hDrop ⊢
      rw [readValue_numeral hFirst, hTake, hDrop, ← hCons, numeral?_of_isNumberOf h]
      rfl
  | string h =>
      obtain ⟨inner, hQuote, hString⟩ := exists_readString h rest
      rw [hQuote, readValue, skipLayout_cons (by decide)]
      simp only [hString, Option.map_some]
  | @noItems layout hLayout =>
      simp only [List.cons_append, List.append_assoc, List.nil_append, readValue,
        skipLayout_cons (c := '[') (by decide), skipLayout_append hLayout,
        skipLayout_cons (c := ']') (by decide)]
  | @noFields layout hLayout =>
      simp only [List.cons_append, List.append_assoc, List.nil_append, readValue,
        skipLayout_cons (c := '{') (by decide), skipLayout_append hLayout,
        skipLayout_cons (c := '}') (by decide)]
  | @array items text h =>
      simp only [List.length_cons, List.length_append, List.length_nil] at hFuel
      obtain ⟨c, more, hSkip, hEnd⟩ := skipLayout_of_isItemsOf h (']' :: rest)
      simp only [List.cons_append, List.append_assoc, List.nil_append, readValue,
        skipLayout_cons (c := '[') (by decide)]
      split
      · next tail hSame => exact absurd (List.cons.inj (hSkip.symm.trans hSame)).1 hEnd
      · rw [readItems_skipLayout, hItems [] rest h (by omega)]
        rfl
  | @object fields text h =>
      simp only [List.length_cons, List.length_append, List.length_nil] at hFuel
      obtain ⟨more, hSkip⟩ := skipLayout_of_isFieldsOf h ('}' :: rest)
      simp only [List.cons_append, List.append_assoc, List.nil_append, readValue,
        skipLayout_cons (c := '{') (by decide)]
      split
      · next tail hSame =>
        exact absurd (List.cons.inj (hSkip.symm.trans hSame)).1 (by decide)
      · rw [readFields_skipLayout, hFields [] rest h (by omega)]
        rfl

/-- The length of a part is enough fuel to read it. -/
theorem reads (Form : Binary64 → Bool → Numeral → Prop) (fuel : Nat) :
    ReadsValues Form fuel ∧ ReadsItems Form fuel ∧ ReadsFields Form fuel := by
  induction fuel with
  | zero =>
      refine ⟨fun document text rest h hFuel => ?_, fun items text before rest h hFuel => ?_,
        fun fields text before rest h hFuel => ?_⟩
      · obtain ⟨c, more, rfl, -⟩ := exists_cons_of_isValueOf h
        cases hFuel
      · cases hFuel
      · cases hFuel
  | succ fuel ih =>
      obtain ⟨hValues, hItems, hFields⟩ := ih
      exact ⟨readsValues_succ hItems hFields, readsItems_succ hValues hItems,
        readsFields_succ hValues hFields⟩

/-- Every JSON text is read as the document that it stands for. -/
theorem read?_of_isTextOf {text : String} (h : IsTextOf Form document text.toList) :
    read? text = some document := by
  obtain ⟨after, hAfter, hRead⟩ :=
    (reads Form (2 * text.toList.length + 2)).1.padded h (by omega) [] (by simp [EndsNumeral])
  have hEnd : skipLayout after = [] := by
    have hSkip := skipLayout_append hAfter []
    rwa [List.append_nil] at hSkip
  rw [List.append_nil, List.append_nil] at hRead
  simp only [read?, hRead, hEnd, List.isEmpty_nil, if_true]

/-- A text stands for one document at most, whatever is asked of its numerals. -/
theorem eq_of_isTextOf {OtherForm : Binary64 → Bool → Numeral → Prop} {other : Json}
    (h : IsTextOf Form document text) (hOther : IsTextOf OtherForm other text) :
    document = other := by
  rw [← String.toList_ofList (l := text)] at h hOther
  exact Option.some.inj ((read?_of_isTextOf h).symm.trans (read?_of_isTextOf hOther))

end Documents

end Json

end PatchCoverage
