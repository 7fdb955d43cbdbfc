import PatchCoverage.Proofs.Failure
import PatchCoverage.Text.Utf8

namespace PatchCoverage

/-!
# Texts and their octets

The octets of a text are those of its characters, one after the other.  The
decoder takes one octet at a time, so the proof follows it through the one to
four octets of a character; the narrower range of a second octet never gets in
the way of a character that exists.

Main statements: `decodeUtf8_encodeUtf8`, by which the octets of every text are
read back as the text, and `decodeUtf8_eq_ok_iff`, by which no others are.
-/

/-! ## The octets of a text -/

theorem toList_loop_eq_append (octets : ByteArray) (position : Nat) (taken : List UInt8) :
    ByteArray.toList.loop octets position taken =
      taken.reverse ++ octets.data.toList.drop position := by
  fun_induction ByteArray.toList.loop octets position taken with
  | case1 position taken hBefore ih =>
      have hPosition : position < octets.data.toList.length := by simpa using hBefore
      rw [ih, List.drop_eq_getElem_cons hPosition]
      simp [ByteArray.get!, hBefore]
  | case2 position taken hEnd =>
      have hLength : octets.data.toList.length ≤ position := by
        simpa using Nat.le_of_not_lt hEnd
      rw [List.drop_eq_nil_of_le hLength, List.append_nil]

/-- The octets of a text are those of its characters. -/
theorem encodeUtf8_eq_flatMap (text : String) :
    encodeUtf8 text = text.toList.flatMap String.utf8EncodeChar := by
  have hOctets : text.toUTF8.data.toList = text.toList.flatMap String.utf8EncodeChar := by
    conv => lhs; rw [← String.ofList_toList (s := text)]
    rw [String.toUTF8_eq_toByteArray, String.toByteArray_ofList, List.utf8Encode,
      List.toList_data_toByteArray]
  rw [encodeUtf8, ByteArray.toList, toList_loop_eq_append, List.reverse_nil, List.nil_append,
    List.drop_zero, hOctets]

theorem encodeUtf8_empty : encodeUtf8 "" = [] := by
  rw [encodeUtf8_eq_flatMap]
  rfl

theorem encodeUtf8_append (first second : String) :
    encodeUtf8 (first ++ second) = encodeUtf8 first ++ encodeUtf8 second := by
  rw [encodeUtf8_eq_flatMap, encodeUtf8_eq_flatMap, encodeUtf8_eq_flatMap, String.toList_append,
    List.flatMap_append]

/-! ## One character -/

section Octets

variable {decoded : List Char} {position : Nat} {rest : List UInt8} {value : Nat}

theorem toNat_ofNat_of_lt {octet : Nat} (h : octet < 256) : (UInt8.ofNat octet).toNat = octet :=
  UInt8.toNat_ofNat_of_lt' h

/-- An octet that continues a character and is not its last. -/
theorem decodeUtf8From_continue {lead : UInt8} {taken missing octet : Nat} {low high : UInt8}
    (hMissing : 1 < missing) (hLow : low.toNat ≤ octet) (hHigh : octet ≤ high.toNat) :
    decodeUtf8From decoded position (some ⟨lead, taken, missing, value, low, high⟩)
        (UInt8.ofNat octet :: rest) =
      decodeUtf8From decoded (position + 1)
        (some ⟨lead, taken + 1, missing - 1, value * 64 + octet % 64, 0x80, 0xBF⟩) rest := by
  have hOctet : (UInt8.ofNat octet).toNat = octet :=
    toNat_ofNat_of_lt (by have := high.toNat_lt; omega)
  have hRange : low ≤ UInt8.ofNat octet ∧ UInt8.ofNat octet ≤ high := by
    rw [UInt8.le_iff_toNat_le, UInt8.le_iff_toNat_le, hOctet]
    exact ⟨hLow, hHigh⟩
  rw [decodeUtf8From, if_pos hRange]
  simp only [hOctet, if_neg (by omega : ¬ missing ≤ 1)]

/-- The last octet of a character. -/
theorem decodeUtf8From_last {lead : UInt8} {taken octet : Nat} (hLow : 0x80 ≤ octet)
    (hHigh : octet ≤ 0xBF) :
    decodeUtf8From decoded position (some ⟨lead, taken, 1, value, 0x80, 0xBF⟩)
        (UInt8.ofNat octet :: rest) =
      decodeUtf8From (Char.ofNat (value * 64 + octet % 64) :: decoded) (position + 1) none
        rest := by
  have hOctet : (UInt8.ofNat octet).toNat = octet := toNat_ofNat_of_lt (by omega)
  have hRange : (0x80 : UInt8) ≤ UInt8.ofNat octet ∧ UInt8.ofNat octet ≤ 0xBF := by
    rw [UInt8.le_iff_toNat_le, UInt8.le_iff_toNat_le, hOctet]
    exact ⟨hLow, hHigh⟩
  rw [decodeUtf8From, if_pos hRange]
  simp only [hOctet, Nat.le_refl, if_pos]

end Octets

/-! ### What the first octet announces -/

theorem ofNat_lt_iff {octet : Nat} (h : octet < 256) (bound : UInt8) :
    UInt8.ofNat octet < bound ↔ octet < bound.toNat := by
  rw [UInt8.lt_iff_toNat_lt, toNat_ofNat_of_lt h]

theorem ofNat_eq_iff {octet : Nat} (h : octet < 256) (other : UInt8) :
    UInt8.ofNat octet = other ↔ octet = other.toNat := by
  rw [← UInt8.toNat_inj, toNat_ofNat_of_lt h]

theorem utf8Start_ofNat_of_lt {octet : Nat} (h : octet < 0x80) :
    utf8Start (UInt8.ofNat octet) = .single := by
  have hFirst : UInt8.ofNat octet < 0x80 := (ofNat_lt_iff (by omega) _).mpr h
  unfold utf8Start
  rw [if_pos hFirst]

/-- The start of a character of two octets. -/
theorem utf8Start_two {octet : Nat} (hLow : 0xC2 ≤ octet) (hHigh : octet < 0xE0) :
    utf8Start (UInt8.ofNat octet) =
      .several ⟨UInt8.ofNat octet, 1, 1, octet % 32, 0x80, 0xBF⟩ := by
  have hOctet : octet < 256 := by omega
  have hAscii : ¬ octet < 128 := by omega
  have hNone : ¬ octet < 194 := by omega
  simp [utf8Start, ofNat_lt_iff hOctet, toNat_ofNat_of_lt hOctet, hAscii, hNone, hHigh]

/-- The start of a character of three octets. -/
theorem utf8Start_three {octet : Nat} (hLow : 0xE0 ≤ octet) (hHigh : octet < 0xF0) :
    utf8Start (UInt8.ofNat octet) =
      .several ⟨UInt8.ofNat octet, 1, 2, octet % 16, if octet = 0xE0 then 0xA0 else 0x80,
        if octet = 0xED then 0x9F else 0xBF⟩ := by
  have hOctet : octet < 256 := by omega
  have hAscii : ¬ octet < 128 := by omega
  have hNone : ¬ octet < 194 := by omega
  have hTwo : ¬ octet < 224 := by omega
  simp [utf8Start, ofNat_lt_iff hOctet, ofNat_eq_iff hOctet, toNat_ofNat_of_lt hOctet, hAscii,
    hNone, hTwo, hHigh]

/-- The start of a character of four octets. -/
theorem utf8Start_four {octet : Nat} (hLow : 0xF0 ≤ octet) (hHigh : octet < 0xF5) :
    utf8Start (UInt8.ofNat octet) =
      .several ⟨UInt8.ofNat octet, 1, 3, octet % 8, if octet = 0xF0 then 0x90 else 0x80,
        if octet = 0xF4 then 0x8F else 0xBF⟩ := by
  have hOctet : octet < 256 := by omega
  have hAscii : ¬ octet < 128 := by omega
  have hNone : ¬ octet < 194 := by omega
  have hTwo : ¬ octet < 224 := by omega
  have hThree : ¬ octet < 240 := by omega
  simp [utf8Start, ofNat_lt_iff hOctet, ofNat_eq_iff hOctet, toNat_ofNat_of_lt hOctet, hAscii,
    hNone, hTwo, hThree, hHigh]

/-- No character starts with any other octet. -/
theorem utf8Start_none {octet : Nat} (hLow : 0x80 ≤ octet) (hBound : octet < 256)
    (hNone : octet < 0xC2 ∨ 0xF5 ≤ octet) : utf8Start (UInt8.ofNat octet) = .none := by
  have hAscii : ¬ octet < 128 := by omega
  rcases hNone with hNone | hNone
  · simp [utf8Start, ofNat_lt_iff hBound, hAscii, hNone]
  · have hSeveral : ¬ octet < 194 ∧ ¬ octet < 224 ∧ ¬ octet < 240 ∧ ¬ octet < 245 := by omega
    simp [utf8Start, ofNat_lt_iff hBound, hAscii, hSeveral]

/-! ### All of its octets -/

/-- The octets of a character are read as that character. -/
theorem decodeUtf8From_encodeChar (decoded : List Char) (position : Nat) (c : Char)
    (rest : List UInt8) :
    ∃ next, decodeUtf8From decoded position none (String.utf8EncodeChar c ++ rest) =
      decodeUtf8From (c :: decoded) next none rest := by
  have hValue : Char.ofNat c.val.toNat = c := Char.ofNat_toNat c
  have hValid : c.val.toNat < 0xD800 ∨ 0xDFFF < c.val.toNat ∧ c.val.toNat < 0x110000 := c.valid
  unfold String.utf8EncodeChar
  generalize c.val.toNat = value at hValue hValid
  dsimp only
  by_cases hOne : value ≤ 0x7F
  · rw [if_pos hOne, List.singleton_append, decodeUtf8From, utf8Start_ofNat_of_lt (by omega)]
    dsimp only
    rw [toNat_ofNat_of_lt (by omega), hValue]
    exact ⟨_, rfl⟩
  rw [if_neg hOne]
  by_cases hTwo : value ≤ 0x7FF
  · have hJoined : (value / 64 % 32 + 192) % 32 * 64 + (value % 64 + 128) % 64 = value := by omega
    rw [if_pos hTwo, List.cons_append, List.singleton_append, decodeUtf8From,
      utf8Start_two (by omega) (by omega)]
    dsimp only
    rw [decodeUtf8From_last (by omega) (by omega), hJoined, hValue]
    exact ⟨_, rfl⟩
  rw [if_neg hTwo]
  by_cases hThree : value ≤ 0xFFFF
  · have hJoined : ((value / 4096 % 16 + 224) % 16 * 64 + (value / 64 % 64 + 128) % 64) * 64 +
        (value % 64 + 128) % 64 = value := by omega
    rw [if_pos hThree, List.cons_append, List.cons_append, List.singleton_append, decodeUtf8From,
      utf8Start_three (by omega) (by omega)]
    dsimp only
    -- The second octet is in the narrower ranges: no longer form than needed, no surrogate.
    rw [decodeUtf8From_continue (by omega) (by split <;> simp <;> omega)
      (by split <;> simp <;> omega), decodeUtf8From_last (by omega) (by omega), hJoined, hValue]
    exact ⟨_, rfl⟩
  · have hJoined : (((value / 262144 % 8 + 240) % 8 * 64 + (value / 4096 % 64 + 128) % 64) * 64 +
        (value / 64 % 64 + 128) % 64) * 64 + (value % 64 + 128) % 64 = value := by omega
    rw [if_neg hThree, List.cons_append, List.cons_append, List.cons_append,
      List.singleton_append, decodeUtf8From, utf8Start_four (by omega) (by omega)]
    dsimp only
    -- Here too: no longer form than needed, nothing beyond the last code point.
    rw [decodeUtf8From_continue (by omega) (by split <;> simp <;> omega)
      (by split <;> simp <;> omega), decodeUtf8From_continue (by omega) (by simp) (by simp; omega),
      decodeUtf8From_last (by omega) (by omega), hJoined, hValue]
    exact ⟨_, rfl⟩

/-! ## The whole text -/

theorem decodeUtf8From_flatMap (decoded : List Char) (position : Nat) (characters : List Char) :
    decodeUtf8From decoded position none (characters.flatMap String.utf8EncodeChar) =
      .ok (decoded.reverse ++ characters) := by
  induction characters generalizing decoded position with
  | nil => simp [decodeUtf8From]
  | cons c characters ih =>
      obtain ⟨next, hNext⟩ := decodeUtf8From_encodeChar decoded position c
        (characters.flatMap String.utf8EncodeChar)
      rw [List.flatMap_cons, hNext, ih]
      simp

/-- The octets of a text are read back as the text. -/
theorem decodeUtf8_encodeUtf8 (text : String) : decodeUtf8 (encodeUtf8 text) = .ok text := by
  rw [decodeUtf8, encodeUtf8_eq_flatMap, decodeUtf8From_flatMap]
  simp [Except.map]

/-- Octets that are read as a text are read first when others follow. -/
theorem decodeUtf8From_append {decoded characters : List Char} {position : Nat}
    {pending? : Option Utf8Pending} {octets : List UInt8} (rest : List UInt8)
    (h : decodeUtf8From decoded position pending? octets = .ok characters) :
    ∃ next, decodeUtf8From decoded position pending? (octets ++ rest) =
      decodeUtf8From characters.reverse next none rest := by
  fun_induction decodeUtf8From decoded position pending? octets with
  | case1 decoded position =>
      obtain rfl := Except.ok.inj h
      exact ⟨position, by rw [List.nil_append, List.reverse_reverse]⟩
  | case2 => cases h
  | case3 decoded position octet after hStart ih =>
      rw [List.cons_append, decodeUtf8From, hStart]
      exact ih h
  | case4 decoded position octet after pending hStart ih =>
      rw [List.cons_append, decodeUtf8From, hStart]
      exact ih h
  | case5 => cases h
  | case6 decoded position pending octet after hRange value hLast ih =>
      rw [List.cons_append, decodeUtf8From, if_pos hRange]
      simp only [if_pos hLast]
      exact ih h
  | case7 decoded position pending octet after hRange value hLast ih =>
      rw [List.cons_append, decodeUtf8From, if_pos hRange]
      simp only [if_neg hLast]
      exact ih h
  | case8 => cases h

theorem decodeUtf8_append_encodeUtf8 {octets : List UInt8} {text : String} (more : String)
    (h : decodeUtf8 octets = .ok text) :
    decodeUtf8 (octets ++ encodeUtf8 more) = .ok (text ++ more) := by
  obtain ⟨characters, hRead, rfl⟩ := map_eq_ok_iff.mp h
  obtain ⟨next, hNext⟩ := decodeUtf8From_append (encodeUtf8 more) hRead
  rw [decodeUtf8, hNext, encodeUtf8_eq_flatMap, decodeUtf8From_flatMap, List.reverse_reverse,
    Except.map, String.ofList_append, String.ofList_toList]

/-! ## Nothing else is read -/

theorem val_ofNat {value : Nat} (h : value < 0xD800 ∨ 0xDFFF < value ∧ value < 0x110000) :
    (Char.ofNat value).val.toNat = value := by
  unfold Char.ofNat
  rw [dif_pos h]
  rfl

/-- The octets of the character of a code point. -/
theorem utf8EncodeChar_ofNat {value : Nat}
    (h : value < 0xD800 ∨ 0xDFFF < value ∧ value < 0x110000) :
    String.utf8EncodeChar (Char.ofNat value) =
      if value ≤ 0x7F then [UInt8.ofNat value]
      else if value ≤ 0x7FF then
        [UInt8.ofNat (value / 64 % 32 + 192), UInt8.ofNat (value % 64 + 128)]
      else if value ≤ 0xFFFF then
        [UInt8.ofNat (value / 4096 % 16 + 224), UInt8.ofNat (value / 64 % 64 + 128),
          UInt8.ofNat (value % 64 + 128)]
      else
        [UInt8.ofNat (value / 262144 % 8 + 240), UInt8.ofNat (value / 4096 % 64 + 128),
          UInt8.ofNat (value / 64 % 64 + 128), UInt8.ofNat (value % 64 + 128)] := by
  unfold String.utf8EncodeChar
  rw [val_ofNat h]

section Read

variable {decoded result : List Char} {position : Nat} {octets : List UInt8} {lead : UInt8}
  {taken missing value : Nat} {low high : UInt8}

/-- Inside a character an octet in the given range follows. -/
theorem exists_continue (hMissing : 1 < missing)
    (h : decodeUtf8From decoded position (some ⟨lead, taken, missing, value, low, high⟩) octets =
      .ok result) :
    ∃ octet after, octets = UInt8.ofNat octet :: after ∧ low.toNat ≤ octet ∧ octet ≤ high.toNat ∧
      decodeUtf8From decoded (position + 1)
        (some ⟨lead, taken + 1, missing - 1, value * 64 + octet % 64, 0x80, 0xBF⟩) after =
          .ok result := by
  cases octets with
  | nil => cases h
  | cons octet after =>
      rw [decodeUtf8From] at h
      by_cases hRange : low ≤ octet ∧ octet ≤ high
      · simp only [if_pos hRange, if_neg (Nat.not_le_of_lt hMissing)] at h
        exact ⟨octet.toNat, after, by rw [UInt8.ofNat_toNat], UInt8.le_iff_toNat_le.mp hRange.1,
          UInt8.le_iff_toNat_le.mp hRange.2, h⟩
      · rw [if_neg hRange] at h
        cases h

/-- Before the end of a character its last octet follows. -/
theorem exists_last
    (h : decodeUtf8From decoded position (some ⟨lead, taken, 1, value, 0x80, 0xBF⟩) octets =
      .ok result) :
    ∃ octet after, octets = UInt8.ofNat octet :: after ∧ 0x80 ≤ octet ∧ octet ≤ 0xBF ∧
      decodeUtf8From (Char.ofNat (value * 64 + octet % 64) :: decoded) (position + 1) none after =
        .ok result := by
  cases octets with
  | nil => cases h
  | cons octet after =>
      rw [decodeUtf8From] at h
      by_cases hRange : 0x80 ≤ octet ∧ octet ≤ 0xBF
      · simp only [if_pos hRange, Nat.le_refl, if_true] at h
        exact ⟨octet.toNat, after, by rw [UInt8.ofNat_toNat], UInt8.le_iff_toNat_le.mp hRange.1,
          UInt8.le_iff_toNat_le.mp hRange.2, h⟩
      · rw [if_neg hRange] at h
        cases h

/-- What is read behind the first of two octets begins with a character. -/
theorem exists_utf8EncodeChar_two {first : Nat} (hLow : 0xC2 ≤ first) (hHigh : first < 0xE0)
    (h : decodeUtf8From decoded position none (UInt8.ofNat first :: octets) = .ok result) :
    ∃ c after next, UInt8.ofNat first :: octets = String.utf8EncodeChar c ++ after ∧
      decodeUtf8From (c :: decoded) next none after = .ok result := by
  rw [decodeUtf8From, utf8Start_two hLow hHigh] at h
  obtain ⟨second, after, rfl, hSecondLow, hSecondHigh, h⟩ := exists_last h
  have hFirst : (first % 32 * 64 + second % 64) / 64 % 32 + 192 = first := by omega
  have hSecond : (first % 32 * 64 + second % 64) % 64 + 128 = second := by omega
  refine ⟨_, after, _, ?_, h⟩
  rw [utf8EncodeChar_ofNat (by omega), if_neg (by omega), if_pos (by omega), hFirst, hSecond]
  rfl

/-- What is read behind the first of three octets begins with a character. -/
theorem exists_utf8EncodeChar_three {first : Nat} (hLow : 0xE0 ≤ first) (hHigh : first < 0xF0)
    (h : decodeUtf8From decoded position none (UInt8.ofNat first :: octets) = .ok result) :
    ∃ c after next, UInt8.ofNat first :: octets = String.utf8EncodeChar c ++ after ∧
      decodeUtf8From (c :: decoded) next none after = .ok result := by
  rw [decodeUtf8From, utf8Start_three hLow hHigh] at h
  obtain ⟨second, after, rfl, hNarrowLow, hNarrowHigh, h⟩ := exists_continue (by omega) h
  obtain ⟨third, after, rfl, hThirdLow, hThirdHigh, h⟩ := exists_last h
  -- The narrower ranges of the second octet leave out longer forms than needed and surrogates.
  have hSecondLow : 0x80 ≤ second ∧ (first = 0xE0 → 0xA0 ≤ second) := by
    split at hNarrowLow <;> simp at hNarrowLow <;> omega
  have hSecondHigh : second ≤ 0xBF ∧ (first = 0xED → second ≤ 0x9F) := by
    split at hNarrowHigh <;> simp at hNarrowHigh <;> omega
  generalize hValue : (first % 16 * 64 + second % 64) * 64 + third % 64 = value at h
  have hFirst : value / 4096 % 16 + 224 = first := by omega
  have hSecond : value / 64 % 64 + 128 = second := by omega
  have hThird : value % 64 + 128 = third := by omega
  have hRange : 0x800 ≤ value ∧ value ≤ 0xFFFF ∧ (value < 0xD800 ∨ 0xDFFF < value) := by omega
  refine ⟨_, after, _, ?_, h⟩
  rw [utf8EncodeChar_ofNat (by omega), if_neg (by omega), if_neg (by omega),
    if_pos (by omega), hFirst, hSecond, hThird]
  rfl

/-- What is read behind the first of four octets begins with a character. -/
theorem exists_utf8EncodeChar_four {first : Nat} (hLow : 0xF0 ≤ first) (hHigh : first < 0xF5)
    (h : decodeUtf8From decoded position none (UInt8.ofNat first :: octets) = .ok result) :
    ∃ c after next, UInt8.ofNat first :: octets = String.utf8EncodeChar c ++ after ∧
      decodeUtf8From (c :: decoded) next none after = .ok result := by
  rw [decodeUtf8From, utf8Start_four hLow hHigh] at h
  obtain ⟨second, after, rfl, hNarrowLow, hNarrowHigh, h⟩ := exists_continue (by omega) h
  obtain ⟨third, after, rfl, hThirdLow, hThirdHigh, h⟩ := exists_continue (by omega) h
  obtain ⟨fourth, after, rfl, hFourthLow, hFourthHigh, h⟩ := exists_last h
  -- Here they leave out longer forms than needed and what is beyond the last code point.
  have hSecondLow : 0x80 ≤ second ∧ (first = 0xF0 → 0x90 ≤ second) := by
    split at hNarrowLow <;> simp at hNarrowLow <;> omega
  have hSecondHigh : second ≤ 0xBF ∧ (first = 0xF4 → second ≤ 0x8F) := by
    split at hNarrowHigh <;> simp at hNarrowHigh <;> omega
  simp only [UInt8.reduceToNat] at hThirdLow hThirdHigh
  generalize hValue :
    ((first % 8 * 64 + second % 64) * 64 + third % 64) * 64 + fourth % 64 = value at h
  have hFirst : value / 262144 % 8 + 240 = first := by omega
  have hSecond : value / 4096 % 64 + 128 = second := by omega
  have hThird : value / 64 % 64 + 128 = third := by omega
  have hFourth : value % 64 + 128 = fourth := by omega
  have hRange : 0x10000 ≤ value ∧ value < 0x110000 := by omega
  refine ⟨_, after, _, ?_, h⟩
  rw [utf8EncodeChar_ofNat (by omega), if_neg (by omega), if_neg (by omega),
    if_neg (by omega), hFirst, hSecond, hThird, hFourth]
  rfl

/-- What is read begins with the octets of a character. -/
theorem exists_utf8EncodeChar
    (h : decodeUtf8From decoded position none (lead :: octets) = .ok result) :
    ∃ c after next, lead :: octets = String.utf8EncodeChar c ++ after ∧
      decodeUtf8From (c :: decoded) next none after = .ok result := by
  have hLead : UInt8.ofNat lead.toNat = lead := UInt8.ofNat_toNat
  have hBound : lead.toNat < 256 := lead.toNat_lt
  rw [← hLead] at h ⊢
  generalize lead.toNat = first at h hBound
  by_cases hOne : first < 0x80
  · rw [decodeUtf8From, utf8Start_ofNat_of_lt hOne] at h
    refine ⟨_, octets, _, ?_, h⟩
    rw [toNat_ofNat_of_lt hBound, utf8EncodeChar_ofNat (by omega), if_pos (by omega)]
    rfl
  by_cases hNone : first < 0xC2 ∨ 0xF5 ≤ first
  · rw [decodeUtf8From, utf8Start_none (by omega) hBound (by omega)] at h
    cases h
  by_cases hTwo : first < 0xE0
  · exact exists_utf8EncodeChar_two (by omega) hTwo h
  by_cases hThree : first < 0xF0
  · exact exists_utf8EncodeChar_three (by omega) hThree h
  · exact exists_utf8EncodeChar_four (by omega) (by omega) h

/-- What is read is the octets of characters. -/
theorem exists_flatMap_utf8EncodeChar :
    ∀ {octets : List UInt8} {decoded : List Char} {position : Nat},
      decodeUtf8From decoded position none octets = .ok result →
        ∃ characters, octets = characters.flatMap String.utf8EncodeChar ∧
          result = decoded.reverse ++ characters
  | [], decoded, position, h => ⟨[], rfl, by simpa [decodeUtf8From, eq_comm] using h⟩
  | lead :: octets, decoded, position, h => by
      obtain ⟨c, after, next, hOctets, hAfter⟩ := exists_utf8EncodeChar h
      have hShorter : after.length < (lead :: octets).length := by
        have hSize := List.length_pos_iff.mpr (String.utf8EncodeChar_ne_nil (c := c))
        have hLength := congrArg List.length hOctets
        rw [List.length_append] at hLength
        omega
      obtain ⟨characters, rfl, rfl⟩ := exists_flatMap_utf8EncodeChar hAfter
      exact ⟨c :: characters, hOctets, by simp⟩
termination_by octets => octets.length
decreasing_by exact hShorter

end Read

/-- Octets are read as a text exactly if they are those of the text. -/
theorem decodeUtf8_eq_ok_iff {octets : List UInt8} {text : String} :
    decodeUtf8 octets = .ok text ↔ octets = encodeUtf8 text := by
  constructor
  · intro h
    obtain ⟨characters, hRead, rfl⟩ := map_eq_ok_iff.mp h
    obtain ⟨others, rfl, rfl⟩ := exists_flatMap_utf8EncodeChar hRead
    rw [encodeUtf8_eq_flatMap, String.toList_ofList]
  · rintro rfl
    exact decodeUtf8_encodeUtf8 text

end PatchCoverage
