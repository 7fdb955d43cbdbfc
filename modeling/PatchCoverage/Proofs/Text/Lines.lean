import Mathlib.Data.List.DropRight
import Mathlib.Data.List.Infix
import PatchCoverage.Number.Decimal
import PatchCoverage.Text.Blank
import PatchCoverage.Text.Lines

namespace PatchCoverage

/-!
# Texts that are one line

A text is unbroken if it has neither a line feed nor a carriage return in it.
What is put together from unbroken texts is unbroken, and so is every part of an
unbroken text; numbers are unbroken, and so are the lines of any text whatever.
Unifying line ends leaves the lines of a text as they are.

The last part is the way back: unbroken texts that are printed with a line feed
after each are the lines that a reader finds.
-/

/-- A text without line feed and carriage return. -/
def IsUnbroken (text : String) : Prop :=
  ∀ c ∈ text.toList, c ≠ '\n' ∧ c ≠ '\r'

instance : DecidablePred IsUnbroken :=
  fun text => List.decidableBAll (fun c => c ≠ '\n' ∧ c ≠ '\r') text.toList

theorem IsUnbroken.append {first second : String} (hFirst : IsUnbroken first)
    (hSecond : IsUnbroken second) : IsUnbroken (first ++ second) := by
  intro c hMem
  rw [String.toList_append] at hMem
  exact (List.mem_append.mp hMem).elim (hFirst c) (hSecond c)

/-- Every part of an unbroken text is unbroken. -/
theorem IsUnbroken.of_subset {text part : String} (h : IsUnbroken text)
    (hPart : part.toList ⊆ text.toList) : IsUnbroken part :=
  fun c hMem => h c (hPart hMem)

theorem IsUnbroken.right_of_append {first second : String} (h : IsUnbroken (first ++ second)) :
    IsUnbroken second := by
  refine h.of_subset ?_
  rw [String.toList_append]
  exact List.subset_append_right _ _

theorem isUnbroken_join {texts : List String} (h : ∀ text ∈ texts, IsUnbroken text) :
    IsUnbroken (String.join texts) := by
  intro c hMem
  rw [String.toList_join] at hMem
  obtain ⟨text, hText, hC⟩ := List.mem_flatMap.mp hMem
  exact h text hText c hC

/-! ## Numbers -/

theorem ne_break_of_isDigit {c : Char} (h : c.isDigit = true) : c ≠ '\n' ∧ c ≠ '\r' := by
  constructor
  · rintro rfl
    exact absurd h (by decide)
  · rintro rfl
    exact absurd h (by decide)

theorem isUnbroken_decimalDigits (value : Nat) :
    IsUnbroken (String.ofList (decimalDigits value)) := by
  intro c hMem
  rw [String.toList_ofList] at hMem
  exact ne_break_of_isDigit (Nat.isDigit_of_mem_toDigits (by decide) (by decide) hMem)

theorem isUnbroken_minus {characters : List Char} (h : IsUnbroken (String.ofList characters)) :
    IsUnbroken (String.ofList ('-' :: characters)) := by
  rw [← List.singleton_append, String.ofList_append]
  exact IsUnbroken.append (by decide) h

theorem isUnbroken_integerText (value : Int) : IsUnbroken (integerText value) := by
  unfold integerText
  split
  · exact isUnbroken_minus (isUnbroken_decimalDigits _)
  · exact isUnbroken_decimalDigits _

namespace Binary64

theorem isUnbroken_signed (negative : Bool) {magnitude : List Char}
    (h : IsUnbroken (String.ofList magnitude)) : IsUnbroken (signed negative magnitude) := by
  unfold signed
  split
  · exact isUnbroken_minus h
  · exact h

/-- The two places behind the point are digits. -/
theorem isUnbroken_places :
    ∀ places < 100, IsUnbroken (String.ofList
      ['.', Char.ofNat ('0'.toNat + places / 10), Char.ofNat ('0'.toNat + places % 10)]) := by
  decide +kernel

theorem isUnbroken_hundredthsText (count : Nat) :
    IsUnbroken (String.ofList (hundredthsText count)) := by
  unfold hundredthsText
  rw [String.ofList_append]
  exact (isUnbroken_decimalDigits _).append
    (isUnbroken_places _ (Nat.mod_lt _ (by decide)))

theorem isUnbroken_fixedText (value : Binary64) : IsUnbroken value.fixedText := by
  cases value with
  | nan => exact (by decide : IsUnbroken "nan")
  | infinity negative => exact isUnbroken_signed negative (by decide)
  | finite negative quanta _ _ => exact isUnbroken_signed negative (isUnbroken_hundredthsText _)

end Binary64

/-! ## Lines of a text -/

/-- The pieces that a text is cut into have no boundary in them. -/
theorem not_isLineBoundary_of_mem_splitLinesFrom {line characters piece : List Char} {c : Char}
    (hLine : ∀ c ∈ line, isLineBoundary c = false) (hPiece : piece ∈ splitLinesFrom line characters)
    (hC : c ∈ piece) : isLineBoundary c = false := by
  fun_induction splitLinesFrom line characters with
  | case1 line hEmpty => cases hPiece
  | case2 line hEmpty =>
      obtain rfl := List.mem_singleton.mp hPiece
      exact hLine c (List.mem_reverse.mp hC)
  | case3 line rest ih =>
      rcases List.mem_cons.mp hPiece with rfl | hRest
      · exact hLine c (List.mem_reverse.mp hC)
      · exact ih (by simp) hRest
  | case4 line first rest hBreak hBoundary ih =>
      rcases List.mem_cons.mp hPiece with rfl | hRest
      · exact hLine c (List.mem_reverse.mp hC)
      · exact ih (by simp) hRest
  | case5 line first rest hBreak hBoundary ih =>
      -- The character goes to the current line, since it is no boundary.
      refine ih ?_ hPiece
      intro other hOther
      rcases List.mem_cons.mp hOther with rfl | hBefore
      · exact eq_false_of_ne_true hBoundary
      · exact hLine other hBefore

/-- The lines of a text are unbroken. -/
theorem isUnbroken_of_mem_splitLines {text line : String} (h : line ∈ splitLines text) :
    IsUnbroken line := by
  obtain ⟨piece, hPiece, rfl⟩ := List.mem_map.mp h
  intro c hMem
  rw [String.toList_ofList] at hMem
  have hBoundary : isLineBoundary c = false :=
    not_isLineBoundary_of_mem_splitLinesFrom (by simp) hPiece hMem
  constructor
  · rintro rfl
    exact absurd hBoundary (by decide)
  · rintro rfl
    exact absurd hBoundary (by decide)

theorem toList_trimBlank_subset (text : String) : (trimBlank text).toList ⊆ text.toList := by
  rw [trimBlank, String.toList_ofList]
  have hEnd : trimBoth isBlank text.toList ⊆ text.toList.dropWhile isBlank :=
    (List.rdropWhile_prefix isBlank _).subset
  exact List.Subset.trans hEnd (List.dropWhile_sublist _).subset

theorem isUnbroken_trimBlank {text : String} (h : IsUnbroken text) :
    IsUnbroken (trimBlank text) :=
  h.of_subset (toList_trimBlank_subset text)

/-! ## Unified line ends -/

theorem splitLinesFrom_boundary {line rest : List Char} {c : Char} (hBoundary : isLineBoundary c)
    (hAlone : c = '\r' → ∀ after, rest ≠ '\n' :: after) :
    splitLinesFrom line (c :: rest) = line.reverse :: splitLinesFrom [] rest := by
  rw [splitLinesFrom.eq_3 line c rest fun after hReturn hPair => hAlone hReturn after hPair,
    if_pos hBoundary]

/-- Unified line ends are the same boundaries. -/
theorem splitLinesFrom_unifyNewlines (line characters : List Char) :
    splitLinesFrom line (unifyNewlines characters) = splitLinesFrom line characters := by
  fun_induction unifyNewlines characters generalizing line with
  | case1 => rfl
  | case2 rest ih =>
      rw [splitLinesFrom_boundary (by decide) (fun h => absurd h (by decide)), splitLinesFrom, ih]
  | case3 rest hAlone ih =>
      have hNext : ∀ after, rest ≠ '\n' :: after := fun after h => hAlone after h
      rw [splitLinesFrom_boundary (by decide) (fun h => absurd h (by decide)),
        splitLinesFrom_boundary (by decide) (fun _ => hNext), ih]
  | case4 c rest _ hOther ih =>
      rw [splitLinesFrom.eq_3 line c _ (fun _ h => (hOther h).elim),
        splitLinesFrom.eq_3 line c rest (fun _ h => (hOther h).elim), ih, ih]

theorem splitLines_unifyNewlines (text : String) :
    splitLines (String.ofList (unifyNewlines text.toList)) = splitLines text := by
  rw [splitLines, String.toList_ofList, splitLinesFrom_unifyNewlines, splitLines]

/-- Without carriage returns there is nothing to unify. -/
theorem unifyNewlines_eq_self {text : List Char} (h : '\r' ∉ text) : unifyNewlines text = text := by
  fun_induction unifyNewlines text with
  | case1 => rfl
  | case2 rest ih => exact absurd List.mem_cons_self h
  | case3 rest hFeed ih => exact absurd List.mem_cons_self h
  | case4 c rest hPair hReturn ih => rw [ih (fun hMem => h (List.mem_cons_of_mem _ hMem))]

/-! ## Printed lines -/

theorem piecesBetween_append {separator : Char} {piece rest : List Char}
    (h : separator ∉ piece) :
    piecesBetween separator (piece ++ separator :: rest) =
      piece :: piecesBetween separator rest := by
  induction piece with
  | nil => simp [piecesBetween]
  | cons c piece ih =>
      obtain ⟨hFirst, hPiece⟩ := not_or.mp (List.mem_cons.not.mp h)
      rw [List.cons_append, piecesBetween, if_neg (Ne.symm hFirst), ih hPiece]

/-- Line feeds between texts and one behind them stand after each text. -/
theorem intercalate_append_eq_join {lines : List String} (h : lines ≠ []) :
    "\n".intercalate lines ++ "\n" = String.join (lines.map (· ++ "\n")) := by
  induction lines with
  | nil => exact absurd rfl h
  | cons line lines ih =>
      cases lines with
      | nil => simp [String.join_cons]
      | cons second lines =>
          rw [String.intercalate_cons_cons, String.append_assoc, ih (by simp),
            List.map_cons (f := (· ++ "\n")) (a := line), String.join_cons]

/-- Texts without line feeds in them, with one after each, are the pieces in front of those
of what follows. -/
theorem piecesBetween_join_append {lines : List String} (h : ∀ line ∈ lines, '\n' ∉ line.toList)
    (rest : List Char) :
    piecesBetween '\n' ((String.join (lines.map (· ++ "\n"))).toList ++ rest) =
      lines.map String.toList ++ piecesBetween '\n' rest := by
  rw [String.toList_join]
  induction lines with
  | nil => rfl
  | cons line lines ih =>
      obtain ⟨hFeed, hOthers⟩ := List.forall_mem_cons.mp h
      calc
        piecesBetween '\n' (((line :: lines).map (· ++ "\n")).flatMap String.toList ++ rest) =
            piecesBetween '\n'
              (line.toList ++ '\n' :: ((lines.map (· ++ "\n")).flatMap String.toList ++ rest)) := by
          simp
        _ = (line :: lines).map String.toList ++ piecesBetween '\n' rest := by
          rw [piecesBetween_append hFeed, ih hOthers]
          rfl

/-- Unbroken texts with a line feed after each are read back as the lines. -/
theorem piecesBetween_printed {lines : List String} (h : ∀ line ∈ lines, IsUnbroken line) :
    piecesBetween '\n' (String.join (lines.map (· ++ "\n"))).toList =
      lines.map String.toList ++ [[]] := by
  have hPieces := piecesBetween_join_append
    (fun line hLine hFeed => (h line hLine _ hFeed).1 rfl) []
  rwa [List.append_nil] at hPieces

/-- No carriage return is among unbroken texts with a line feed after each. -/
theorem notMem_printed {lines : List String} (h : ∀ line ∈ lines, IsUnbroken line) :
    '\r' ∉ (String.join (lines.map (· ++ "\n"))).toList := by
  intro hMem
  rw [String.toList_join, List.flatMap_map] at hMem
  obtain ⟨line, hLine, hC⟩ := List.mem_flatMap.mp hMem
  rw [String.toList_append] at hC
  rcases List.mem_append.mp hC with hText | hFeed
  · exact (h line hLine _ hText).2 rfl
  · exact absurd hFeed (by decide)

end PatchCoverage
