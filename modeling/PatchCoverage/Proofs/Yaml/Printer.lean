import PatchCoverage.Proofs.Number.Characters
import PatchCoverage.Yaml.Printer

namespace PatchCoverage.Yaml

/-!
# What texts and numbers are written with

YAML is written with ordinary characters only: printing ASCII characters and line feeds.
A text that holds anything else stands between double quotes, where all else is written
with escapes, and these are ordinary (`all_writeText`, `all_writeNumber`).
-/

theorem isOrdinary_blank : isOrdinary ' ' = true := by decide

theorem isOrdinary_feed : isOrdinary '\n' = true := by decide

/-- An ordinary character is one that prints, or a line feed. -/
theorem isOrdinary_of_prints {c : Char} (h : (decide (' ' ≤ c) && decide (c ≤ '~')) = true) :
    isOrdinary c = true := by
  rw [isOrdinary, h, Bool.or_true]

/-! ## Texts without escapes -/

theorem all_breakLine (indent : Nat) : (breakLine indent).all isOrdinary = true := by
  simp [breakLine, isOrdinary_feed, isOrdinary_blank]

/-- Only blanks, line feeds and quotes are put between the characters of a text. -/
theorem all_writeFlowing (inQuotes : Bool) (indent column : Nat) (previous : Option Char)
    {text : List Char} (h : text.all isOrdinary = true) :
    (writeFlowing inQuotes indent column previous text).all isOrdinary = true := by
  fun_induction writeFlowing inQuotes indent column previous text with
  | case1 => rfl
  | case2 column previous rest hBreaks ih =>
      rw [List.all_cons, Bool.and_eq_true] at h
      rw [List.all_append, all_breakLine, ih h.2, Bool.and_true]
  | case3 column previous rest hKept ih =>
      rw [List.all_cons, Bool.and_eq_true] at h
      rw [List.all_cons, h.1, ih h.2, Bool.and_true]
  | case4 column previous rest hMore hFeed begun ih =>
      rw [List.all_cons, Bool.and_eq_true] at h
      have hBegun : begun.all isOrdinary = true := by
        unfold begun
        split <;> decide
      rw [List.all_append, hBegun, ih h.2, Bool.and_true]
  | case5 column previous rest hMore hFeed begun ih =>
      rw [List.all_cons, Bool.and_eq_true] at h
      have hBegun : begun.all isOrdinary = true := by
        unfold begun
        split <;> decide
      have hIndented : (List.replicate indent ' ').all isOrdinary = true := by
        simp [isOrdinary_blank]
      rw [List.all_append, List.all_append, hBegun, hIndented, ih h.2, Bool.and_true]
      rfl
  | case6 column previous c rest hBlank hFeed hQuote ih =>
      rw [List.all_cons, Bool.and_eq_true] at h
      rw [List.all_cons, List.all_cons, h.1, ih h.2, Bool.and_true, Bool.and_true]
  | case7 column previous c rest hBlank hFeed hKept ih =>
      rw [List.all_cons, Bool.and_eq_true] at h
      rw [List.all_cons, h.1, ih h.2, Bool.and_true]

/-! ## Texts with escapes -/

/-- Every digit of a number is the character of a number below the base. -/
theorem exists_digitChar_of_mem_toDigits {base : Nat} (hBase : 1 < base) {value : Nat} {c : Char}
    (h : c ∈ Nat.toDigits base value) : ∃ digit < base, c = digit.digitChar := by
  induction value using Nat.strongRecOn with
  | ind value ih =>
      rw [Nat.toDigits_eq_if hBase] at h
      split at h
      · next hLess => exact ⟨value, hLess, List.mem_singleton.mp h⟩
      · next hMore =>
        rcases List.mem_append.mp h with hFront | hLast
        · exact ih (value / base) (Nat.div_lt_self (by omega) hBase) hFront
        · exact ⟨value % base, Nat.mod_lt _ (by omega), List.mem_singleton.mp hLast⟩

theorem all_hexDigits (count value : Nat) :
    ((hexDigits count value).map Char.toUpper).all isOrdinary = true := by
  have hDigit : ∀ digit < 16, isOrdinary digit.digitChar.toUpper = true := by decide
  rw [List.all_eq_true]
  intro c hMem
  obtain ⟨digit, hDigits, rfl⟩ := List.mem_map.mp hMem
  rcases List.mem_append.mp hDigits with hZero | hValue
  · rw [List.eq_of_mem_replicate hZero]
    decide
  · obtain ⟨value, hLess, rfl⟩ := exists_digitChar_of_mem_toDigits (by decide) hValue
    exact hDigit value hLess

/-- The escape of a code point is a backslash, a letter and digits. -/
theorem exists_escapeCodePoint_eq (code : Nat) :
    ∃ kind ∈ ['x', 'u', 'U'], ∃ count,
      escapeCodePoint code = '\\' :: kind :: hexDigits count code := by
  unfold escapeCodePoint
  split
  · exact ⟨'x', by decide, 2, rfl⟩
  · split
    · exact ⟨'u', by decide, 4, rfl⟩
    · exact ⟨'U', by decide, 8, rfl⟩

theorem all_numberEscape (code : Nat) : (numberEscape code).all isOrdinary = true := by
  have hKinds : ['x', 'u', 'U'].all isOrdinary = true := by decide
  obtain ⟨kind, hKind, count, hEscape⟩ := exists_escapeCodePoint_eq code
  rw [numberEscape, hEscape]
  dsimp only
  rw [List.all_cons, List.all_cons, List.all_eq_true.mp hKinds kind hKind, all_hexDigits]
  decide

theorem all_escape {c : Char} {escape : List Char} (h : escape? c = some escape) :
    escape.all isOrdinary = true := by
  have hLetters : (letterEscapes.all fun entry => isOrdinary entry.2) = true := by decide
  unfold escape? at h
  split at h
  · next letter hLetter =>
    obtain ⟨before, after, hEntries, -⟩ := List.lookup_eq_some_iff.mp hLetter
    have hOrdinary : isOrdinary letter = true := by
      refine List.all_eq_true.mp hLetters (c, letter) ?_
      rw [hEntries]
      exact List.mem_append_right _ List.mem_cons_self
    obtain rfl := Option.some.inj h
    rw [List.all_cons, List.all_cons, hOrdinary]
    decide
  · split at h
    · cases h
    · obtain rfl := Option.some.inj h
      exact all_numberEscape _

theorem isOrdinary_of_escape?_eq_none {c : Char} (h : escape? c = none) : isOrdinary c = true := by
  unfold escape? at h
  split at h
  · cases h
  · split at h
    · next hPrints => exact isOrdinary_of_prints hPrints
    · cases h

theorem all_breakQuoted (indent : Nat) (next : Option Char) :
    (breakQuoted indent next).all isOrdinary = true := by
  have hSlash : isOrdinary '\\' = true := by decide
  rw [breakQuoted, List.all_append, List.all_cons, hSlash, all_breakLine]
  split <;> decide

/-- Between double quotes everything but ordinary characters is escaped. -/
theorem all_writeEscaped (indent column : Nat) (first fresh : Bool) (text : List Char) :
    (writeEscaped indent column first fresh text).all isOrdinary = true := by
  fun_induction writeEscaped indent column first fresh text with
  | case1 => rfl
  | case2 column first fresh c rest inner escape hEscape after hBreaks ih =>
      rw [List.all_append, List.all_append, all_escape hEscape, all_breakQuoted, ih]
      rfl
  | case3 column first fresh c rest inner escape hEscape after hKept ih =>
      rw [List.all_append, all_escape hEscape, ih]
      rfl
  | case4 column first fresh c rest inner hEscape hBreaks ih =>
      rw [List.all_append, List.all_cons, all_breakQuoted, isOrdinary_of_escape?_eq_none hEscape,
        ih]
      rfl
  | case5 column first fresh c rest inner hEscape hKept ih =>
      rw [List.all_cons, isOrdinary_of_escape?_eq_none hEscape, ih]
      rfl

/-! ## Settings -/

theorem all_writeText (indent column : Nat) (text : String) :
    (writeText indent column text).all isOrdinary = true := by
  have hSingle : isOrdinary '\'' = true := by decide
  have hDouble : isOrdinary '"' = true := by decide
  unfold writeText
  split
  · next hPlain =>
    refine all_writeFlowing _ _ _ _ (List.all_eq_true.mpr fun c hMem => ?_)
    simp only [fitsPlain, Bool.and_eq_true, List.all_eq_true] at hPlain
    exact isOrdinary_of_prints (Bool.and_eq_true_iff.mpr (hPlain.1.1.1.1.2 c hMem))
  · split
    · next hQuoted =>
      simp only [fitsSingleQuotes, Bool.and_eq_true] at hQuoted
      rw [List.all_append, List.all_cons, hSingle, all_writeFlowing _ _ _ _ hQuoted.1.1]
      decide
    · rw [List.all_append, List.all_cons, hDouble, all_writeEscaped]
      decide

theorem isOrdinary_of_isDigit {c : Char} (h : c.isDigit = true) : isOrdinary c = true := by
  simp only [Char.isDigit, ge_iff_le, Bool.and_eq_true, decide_eq_true_eq] at h
  refine isOrdinary_of_prints (Bool.and_eq_true_iff.mpr ⟨decide_eq_true ?_, decide_eq_true ?_⟩)
  · exact UInt32.le_trans (by decide) h.1
  · exact UInt32.le_trans h.2 (by decide)

theorem isOrdinary_of_isNumeral {c : Char} (h : isNumeral c = true) : isOrdinary c = true := by
  have hOthers : ['.', '+', '-', '%', 'a', 'e', 'f', 'i', 'n'].all isOrdinary = true := by decide
  rw [isNumeral, Bool.or_eq_true, List.contains_iff_mem] at h
  exact h.elim isOrdinary_of_isDigit (List.all_eq_true.mp hOthers c)

theorem all_writeNumber (value : Binary64) : (writeNumber value).all isOrdinary = true := by
  have hText : ∀ c ∈ value.shortestText.toList, isOrdinary c = true := fun c hMem =>
    isOrdinary_of_isNumeral (Binary64.isNumeral_shortestText value c hMem)
  unfold writeNumber
  split
  · decide
  · decide
  · decide
  · unfold withPoint
    dsimp only
    split
    · exact List.all_eq_true.mpr hText
    · have hPoint : ['.', '0'].all isOrdinary = true := by decide
      rw [List.all_append, List.all_append, hPoint, Bool.and_true, Bool.and_eq_true,
        List.all_eq_true, List.all_eq_true]
      exact ⟨fun c hMem => hText c ((List.takeWhile_subset _) hMem),
        fun c hMem => hText c ((List.dropWhile_sublist _).subset hMem)⟩

theorem all_writeTruth (value : Bool) : (writeTruth value).all isOrdinary = true := by
  cases value <;> decide

end PatchCoverage.Yaml
