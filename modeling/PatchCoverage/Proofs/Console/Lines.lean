import Mathlib.Data.List.Flatten
import PatchCoverage.Proofs.Console.Wrap
import PatchCoverage.Proofs.Text.Blank
import PatchCoverage.Proofs.Text.Width

namespace PatchCoverage.Console

/-!
# Lines keep all but blanks

A text that is fitted into lines of at least two columns loses nothing but blanks, if
no mark in it changes the width of other characters.

The lines are broken so that each of them fits once the blanks at its end are left out.
This is the invariant of the breaks, `fits_lineBreaks`: the columns that count as taken
are those of what stands in the current line, and without the blanks at its end this
line fits.  So what is cut off a line afterwards is blank.
-/

/-- A line that fits without the blanks at its end. -/
def Fits (width : Nat) (line : List Char) : Prop :=
  textWidth (trimEnd isBlank line) ≤ width

section Fits

variable {width : Nat} {line front rest : List Char}

theorem fits_of_textWidth_le (hUnmarked : IsUnmarked line) (h : textWidth line ≤ width) :
    Fits width line :=
  (textWidth_le_of_isPrefix hUnmarked (List.rdropWhile_prefix isBlank line)).trans h

theorem fits_append_of_ink_eq_nil (h : Fits width front) (hRest : ink rest = []) :
    Fits width (front ++ rest) := by
  rw [Fits, trimEnd_append_of_ink_eq_nil front hRest]
  exact h

/-- A word that fits behind what stands in a line makes a line that fits. -/
theorem fits_append (hUnmarked : IsUnmarked (front ++ rest)) (hSolid : ink rest ≠ [])
    (h : textWidth front + textWidth (trimEnd isBlank rest) ≤ width) :
    Fits width (front ++ rest) := by
  have hPart : IsUnmarked (front ++ trimEnd isBlank rest) :=
    hUnmarked.of_subset ((List.prefix_append_right_inj front).mpr
      (List.rdropWhile_prefix isBlank rest)).subset
  rw [Fits, trimEnd_append_of_ink_ne_nil front hSolid, textWidth_append hPart]
  exact h

end Fits

/-! ## What is cut off a line -/

section Truncate

variable {width room : Nat} {front piece text : List Char}

/-- Of single characters nothing is left out that would still fit into some columns. All
after the first fill a column themselves, so that no column is left only if none is asked
for at the beginning. -/
theorem isPrefix_takeColumns {clusters : List Cluster}
    (hSingle : ∀ cluster ∈ clusters, cluster.IsSingle)
    (hOthers : ∀ cluster ∈ clusters.tail, 0 < cluster.width)
    (hRoom : 0 < room ∨ ∀ cluster ∈ clusters, 0 < cluster.width)
    (hUnmarked : IsUnmarked (clusters.flatMap Cluster.characters))
    (hFront : front <+: clusters.flatMap Cluster.characters) (hWidth : textWidth front ≤ room) :
    front <+: takeColumns room clusters := by
  induction clusters generalizing front room with
  | nil => exact hFront
  | cons cluster clusters ih =>
      obtain ⟨hCluster, hRestSingle⟩ := List.forall_mem_cons.mp hSingle
      rw [List.flatMap_cons] at hUnmarked hFront
      have hFrontUnmarked : IsUnmarked front := hUnmarked.of_subset hFront.subset
      obtain ⟨hFirst, hRest⟩ := isUnmarked_append_iff.mp hUnmarked
      have hLeft (hFits : cluster.width ≤ room) : room ≠ 0 := by
        rcases hRoom with hRoom | hPos
        · exact hRoom.ne'
        · exact ((hPos cluster List.mem_cons_self).trans_le hFits).ne'
      rw [takeColumns]
      rcases List.prefix_or_prefix_of_prefix hFront (List.prefix_append ..) with hInside | hOver
      · -- What reaches into the cluster has its character, which fills all its columns.
        by_cases hNil : front = []
        · exact hNil ▸ List.nil_prefix
        have hFits : cluster.width ≤ room :=
          (hCluster.width_le hInside hNil hFirst).trans hWidth
        rw [if_neg (hLeft hFits), if_pos hFits]
        exact hInside.trans (List.prefix_append ..)
      · obtain ⟨behind, rfl⟩ := hOver
        have hSum := textWidth_append hFrontUnmarked
        rw [hCluster.textWidth hFirst] at hSum
        have hFits : cluster.width ≤ room := by omega
        rw [if_neg (hLeft hFits), if_pos hFits]
        have hBehind : behind <+: clusters.flatMap Cluster.characters :=
          (List.prefix_append_right_inj _).mp hFront
        refine (List.prefix_append_right_inj _).mpr ?_
        exact ih hRestSingle (fun other hOther => hOthers other (List.mem_of_mem_tail hOther))
          (.inr hOthers) hRest hBehind (by omega)

/-- A line that fits without the blanks at its end loses none but blanks when it is cut. -/
theorem ink_truncate (hUnmarked : IsUnmarked text) (hWidth : 0 < width) (h : Fits width text) :
    ink (truncate .fold width text) = ink text := by
  obtain ⟨shown, count, hCut, hShown⟩ := exists_truncate width text
  have hKept : trimEnd isBlank text <+: truncate .fold width text := by
    rw [truncate]
    split
    · exact List.rdropWhile_prefix isBlank text
    · next hWide =>
      have hSingle : ∀ cluster ∈ clusters text, cluster.IsSingle :=
        fun cluster hMem => isSingle_of_mem_clusters hUnmarked hMem
      have hOthers := pos_of_mem_tail_clusters hUnmarked
      rw [setWidth, if_neg hWidth.ne', if_neg hWide]
      refine isPrefix_takeColumns hSingle hOthers (.inl hWidth) ?_ ?_ h
      all_goals rw [flatMap_clusters]
      · exact hUnmarked
      · exact List.rdropWhile_prefix isBlank text
  refine ink_of_trimEnd_isPrefix hKept ?_
  rw [hCut, ink_append, ink_replicate, List.append_nil]
  exact hShown.filter _

/-- Blanks that are dropped because a line is too long are blanks at its end. -/
theorem trimEnd_isPrefix_dropExcessBlanks (size : Nat) (text : List Char) :
    trimEnd isBlank text <+: dropExcessBlanks size text := by
  have hPrefix : trimEnd isBlank text <+: text := List.rdropWhile_prefix isBlank text
  refine List.prefix_of_prefix_length_le hPrefix (List.take_prefix _ text) ?_
  have hLength := hPrefix.length_le
  unfold dropExcessBlanks
  rw [List.length_take]
  omega

theorem ink_dropExcessBlanks (size : Nat) (text : List Char) :
    ink (dropExcessBlanks size text) = ink text :=
  ink_of_trimEnd_isPrefix (trimEnd_isPrefix_dropExcessBlanks size text)
    ((List.take_prefix _ text).filter _)

theorem fits_dropExcessBlanks (size : Nat) (hUnmarked : IsUnmarked text) (h : Fits width text) :
    Fits width (dropExcessBlanks size text) := by
  obtain ⟨rest, hRest⟩ := trimEnd_isPrefix_dropExcessBlanks size text
  have hBlank : ink rest = [] := by
    have hInk := congrArg ink hRest
    rw [ink_append, ink_dropExcessBlanks, ink_trimEnd] at hInk
    exact List.append_right_eq_self.mp hInk
  rw [← hRest]
  have hTrimmed : IsUnmarked (trimEnd isBlank text) :=
    hUnmarked.of_subset (List.rdropWhile_prefix isBlank text).subset
  exact fits_append_of_ink_eq_nil (fits_of_textWidth_le hTrimmed h) hBlank

end Truncate

/-! ## Where lines are broken -/

section Breaks

variable {width start : Nat} {line rest : List Char}

theorem flatten_cutAt (position : Nat) (text : List Char) (breaks : List Nat) :
    (cutAt position text breaks).flatten = text := by
  induction breaks generalizing position text with
  | nil => simp [cutAt]
  | cons next breaks ih => rw [cutAt, List.flatten_cons, ih, List.take_append_drop]

theorem cutAt_cons (start : Nat) (line rest : List Char) (breaks : List Nat) :
    cutAt start (line ++ rest) ((start + line.length) :: breaks) =
      line :: cutAt (start + line.length) rest breaks := by
  rw [cutAt, Nat.add_sub_cancel_left, List.take_left, List.drop_left]

/-- A break behind a line ends it; at the beginning of the text there is no line yet. -/
theorem fits_cutAt_breakAt {breaks : List Nat} (hLine : Fits width line)
    (hRest : ∀ other ∈ cutAt (start + line.length) rest breaks, Fits width other) :
    ∀ other ∈ cutAt start (line ++ rest) (breakAt (start + line.length) ++ breaks),
      Fits width other := by
  unfold breakAt
  split
  · next hNone =>
    obtain ⟨rfl, hEmpty⟩ := Nat.add_eq_zero_iff.mp hNone
    obtain rfl := List.length_eq_zero_iff.mp hEmpty
    exact hRest
  · rw [List.singleton_append, cutAt_cons]
    exact List.forall_mem_cons.mpr ⟨hLine, hRest⟩

theorem breaksBefore_cons_cons (position : Nat) (piece second : List Char)
    (pieces : List (List Char)) :
    breaksBefore position (piece :: second :: pieces) =
      (breakAt position ++ (breaksBefore (position + piece.length) (second :: pieces)).1,
        (breaksBefore (position + piece.length) (second :: pieces)).2) :=
  rfl

/-- The pieces of a word that is folded are lines of their own; what follows the word
stands behind the last of them. -/
theorem fits_breaksBefore {piece : List Char} {pieces : List (List Char)} {breaks : List Nat}
    (hPieces : ∀ other ∈ piece :: pieces, Fits width other) (hLine : Fits width line)
    (hLast : ∀ last ∈ piece :: pieces, ∀ position,
      position + last.length = start + line.length + (piece :: pieces).flatten.length →
      (breaksBefore (start + line.length) (piece :: pieces)).2 = textWidth last →
      ∀ other ∈ cutAt position (last ++ rest) breaks, Fits width other) :
    ∀ other ∈ cutAt start (line ++ ((piece :: pieces).flatten ++ rest))
        ((breaksBefore (start + line.length) (piece :: pieces)).1 ++ breaks),
      Fits width other := by
  induction pieces generalizing start line piece with
  | nil =>
      have hBehind := hLast piece List.mem_cons_self (start + line.length) (by simp) rfl
      simpa [breaksBefore] using fits_cutAt_breakAt hLine hBehind
  | cons second pieces ih =>
      obtain ⟨hPiece, hOthers⟩ := List.forall_mem_cons.mp hPieces
      rw [List.flatten_cons, List.append_assoc, breaksBefore_cons_cons, List.append_assoc]
      refine fits_cutAt_breakAt hLine (ih hOthers hPiece ?_)
      intro last hMem position hPosition hWidth
      refine hLast last (List.mem_cons_of_mem _ hMem) position ?_ hWidth
      rw [hPosition, List.flatten_cons (l := piece), List.length_append,
        Nat.add_assoc _ piece.length]

theorem flatten_chop (piece : List Char) (used : Nat) (clusters : List Cluster) :
    (chop width piece used clusters).flatten = piece ++ clusters.flatMap Cluster.characters := by
  induction clusters generalizing piece used with
  | nil => simp [chop]
  | cons cluster clusters ih =>
      rw [chop]
      split
      · rw [List.flatten_cons, ih, List.flatMap_cons]
      · rw [ih, List.flatMap_cons, List.append_assoc]

theorem exists_chop (piece : List Char) (used : Nat) (clusters : List Cluster) :
    ∃ first others, chop width piece used clusters = first :: others := by
  induction clusters generalizing piece used with
  | nil => exact ⟨piece, [], rfl⟩
  | cons cluster clusters ih =>
      rw [chop]
      split
      · exact ⟨_, _, rfl⟩
      · exact ih _ _

/-- The pieces of a word are no wider than a line. -/
theorem textWidth_le_of_mem_chop {clusters : List Cluster} (hWidth : 2 ≤ width)
    (hSingle : ∀ cluster ∈ clusters, cluster.IsSingle)
    (hUnmarked : IsUnmarked (line ++ clusters.flatMap Cluster.characters))
    (hLine : textWidth line ≤ width) :
    ∀ piece ∈ chop width line (textWidth line) clusters, textWidth piece ≤ width := by
  induction clusters generalizing line with
  | nil => simpa [chop] using hLine
  | cons cluster clusters ih =>
      obtain ⟨hCluster, hOthers⟩ := List.forall_mem_cons.mp hSingle
      rw [List.flatMap_cons, ← List.append_assoc] at hUnmarked
      obtain ⟨hFront, hRest⟩ := isUnmarked_append_iff.mp hUnmarked
      have hOwn := hCluster.textWidth (isUnmarked_append_iff.mp hFront).2
      rw [chop]
      split
      · rw [← hOwn]
        refine List.forall_mem_cons.mpr ⟨hLine, ih hOthers ?_ ?_⟩
        · exact isUnmarked_append_iff.mpr ⟨(isUnmarked_append_iff.mp hFront).2, hRest⟩
        · exact hOwn ▸ hCluster.width_le_two.trans hWidth
      · next hFits =>
        have hSum := textWidth_append hFront
        rw [← hOwn, ← hSum]
        exact ih hOthers hUnmarked (by omega)

/-- Between the breaks every line fits. -/
theorem fits_lineBreaks (start : Nat) {words : List (List Char)} (hWidth : 2 ≤ width)
    (hWords : ∀ word ∈ words, ink word ≠ []) (hRest : ink rest = [])
    (hUnmarked : IsUnmarked (line ++ (words.flatten ++ rest))) (hLine : Fits width line) :
    ∀ other ∈ cutAt start (line ++ (words.flatten ++ rest))
        (lineBreaks .fold width (textWidth line) (start + line.length) words),
      Fits width other := by
  induction words generalizing start line with
  | nil =>
      have hEnd : Fits width (line ++ rest) := fits_append_of_ink_eq_nil hLine hRest
      simpa [lineBreaks, cutAt] using hEnd
  | cons word words ih =>
      obtain ⟨hWord, hOthers⟩ := List.forall_mem_cons.mp hWords
      have hAll : line ++ ((word :: words).flatten ++ rest) =
          line ++ word ++ (words.flatten ++ rest) := by simp
      rw [hAll] at hUnmarked ⊢
      obtain ⟨hFront, hBehind⟩ := isUnmarked_append_iff.mp hUnmarked
      have hLonger : start + line.length + word.length = start + (line ++ word).length := by
        rw [List.length_append, Nat.add_assoc]
      rw [lineBreaks]
      dsimp only
      split
      · next hFits =>
        rw [← textWidth_append hFront, hLonger]
        exact ih _ hOthers hUnmarked (fits_append hFront hWord hFits)
      next hTight =>
      rw [List.append_assoc]
      split
      · next hWide =>
        -- The word is folded: its last piece begins the next line.
        have hWordUnmarked : IsUnmarked word := (isUnmarked_append_iff.mp hFront).2
        have hSingle : ∀ cluster ∈ clusters word, cluster.IsSingle :=
          fun cluster hMem => isSingle_of_mem_clusters hWordUnmarked hMem
        have hNarrow : ∀ piece ∈ chop width [] 0 (clusters word), textWidth piece ≤ width :=
          textWidth_le_of_mem_chop hWidth hSingle
            (by rwa [List.nil_append, flatMap_clusters]) (Nat.zero_le _)
        have hFlatten : (chop width [] 0 (clusters word)).flatten = word := by
          rw [flatten_chop, List.nil_append, flatMap_clusters]
        obtain ⟨first, others, hChop⟩ : ∃ first others,
            chop width [] 0 (clusters word) = first :: others := exists_chop [] 0 (clusters word)
        rw [hChop] at hNarrow hFlatten ⊢
        have hPart : ∀ piece ∈ first :: others, IsUnmarked piece := fun piece hMem =>
          hWordUnmarked.of_subset fun c hC => hFlatten ▸ List.mem_flatten_of_mem hMem hC
        rw [← hFlatten]
        refine fits_breaksBefore
          (fun piece hMem => fits_of_textWidth_le (hPart piece hMem) (hNarrow piece hMem)) hLine ?_
        intro last hMem position hPosition hLast
        rw [hLast, ← hPosition]
        refine ih _ hOthers ?_ (fits_of_textWidth_le (hPart last hMem) (hNarrow last hMem))
        exact isUnmarked_append_iff.mpr ⟨hPart last hMem, hBehind⟩
      · next hNarrow =>
        have hNext : Fits width word := Nat.le_of_not_lt hNarrow
        split
        · rw [cutAt_cons]
          refine List.forall_mem_cons.mpr ⟨hLine, ih _ hOthers ?_ hNext⟩
          exact isUnmarked_append_iff.mpr ⟨(isUnmarked_append_iff.mp hFront).2, hBehind⟩
        · -- An empty line has room for every word that is not folded.
          next hStart =>
          refine absurd ?_ hTight
          have hEmpty : textWidth line = 0 := by
            by_contra hUsed
            have hNil : line = [] := by
              have hPosition : start + line.length = 0 := by simpa [hUsed] using hStart
              exact List.length_eq_zero_iff.mp (Nat.add_eq_zero_iff.mp hPosition).2
            exact hUsed (hNil ▸ rfl)
          omega

end Breaks

/-! ## Words and tabs -/

section Words

variable {line text : List Char}

/-- The words of a line are all of it, apart from blanks in a line that has nothing else;
and each of them has more than blanks. -/
theorem exists_wordsWithBlanks {word : List Char} {solid : Bool}
    (hSolid : solid = true ↔ ink word.reverse ≠ []) (rest : List Char) :
    ∃ blanks, word.reverse ++ rest = (wordsWithBlanks word solid rest).flatten ++ blanks ∧
      ink blanks = [] ∧ ∀ other ∈ wordsWithBlanks word solid rest, ink other ≠ [] := by
  fun_induction wordsWithBlanks word solid rest with
  | case1 word => exact ⟨[], by simp, rfl, by simpa using hSolid⟩
  | case2 word solid hBlank =>
      exact ⟨word.reverse, by simp, by simpa [hBlank] using hSolid, by simp⟩
  | case3 word solid c rest hBlank ih =>
      have hLonger : solid = true ↔ ink (c :: word).reverse ≠ [] := by
        rw [hSolid, List.reverse_cons, ink_append, ink_cons_of_isBlank hBlank]
        simp [ink]
      simpa using ih hLonger
  | case4 word solid c rest hBlank hNext ih =>
      have hFirst : true = true ↔ ink [c].reverse ≠ [] := by simp [ink, hBlank]
      obtain ⟨blanks, hRest, hBlanks, hWords⟩ := ih hFirst
      have hWord : ink word.reverse ≠ [] := hSolid.mp (Bool.and_eq_true_iff.mp hNext).1
      refine ⟨blanks, ?_, hBlanks, List.forall_mem_cons.mpr ⟨hWord, hWords⟩⟩
      rw [List.flatten_cons, List.append_assoc, ← hRest]
      rfl
  | case5 word solid c rest hBlank hNext ih =>
      have hLonger : true = true ↔ ink (c :: word).reverse ≠ [] := by
        simp [List.reverse_cons, ink, hBlank]
      simpa using ih hLonger

theorem ink_piecesBetween {separator : Char} (h : isBlank separator = true) (text : List Char) :
    ink (piecesBetween separator text).flatten = ink text := by
  induction text with
  | nil => rfl
  | cons c text ih =>
      obtain ⟨piece, pieces, hPieces, -⟩ := exists_piecesBetween separator text
      rw [piecesBetween]
      rw [hPieces] at ih ⊢
      split
      · next hSame =>
        rw [hSame, List.flatten_cons, List.nil_append, ih, ink_cons_of_isBlank h]
      · change ink ([c] ++ (piece :: pieces).flatten) = ink ([c] ++ text)
        rw [ink_append, ih, ← ink_append]

theorem ink_fillTabs (column : Nat) (pieces : List (List Char)) :
    ink (fillTabs column pieces) = ink pieces.flatten := by
  fun_induction fillTabs column pieces with
  | case1 => rfl
  | case2 column piece => simp
  | case3 column piece rest hRest filled next fill ih =>
      have hBlank : ink [' '] = [] := ink_replicate 1
      have hFilled : ink filled = ink piece := by rw [ink_append, hBlank, List.append_nil]
      rw [ink_append, ink_append, hFilled, ink_replicate, List.append_nil, ih, List.flatten_cons,
        ink_append]

theorem ink_expandTabs (line : List Char) : ink (expandTabs line) = ink line := by
  rw [expandTabs, ink_fillTabs, ink_piecesBetween (by decide)]

theorem isUnmarked_expandTabs (h : IsUnmarked line) : IsUnmarked (expandTabs line) := by
  have hFrom {c : Char} (hBlank : c ≠ ' ') (hMem : c ∈ expandTabs line) : c ∈ line := by
    obtain ⟨front, rest, hText⟩ := List.append_of_mem hMem
    have hWord : [c] <:+: expandTabs line := ⟨front, rest, by simp [hText]⟩
    exact (isInfix_of_expandTabs (by simpa using hBlank.symm) hWord).subset (by simp)
  exact ⟨fun hJoiner => h.1 (hFrom (by decide) hJoiner),
    fun hMark => h.2 (hFrom (by decide) hMark)⟩

end Words

/-! ## Wrapped texts -/

section Wrapped

variable {width : Nat} {line text : List Char}

/-- A piece of a line that fits is kept up to blanks in what becomes of it. -/
theorem ink_wrappedPiece {piece : List Char} (hWidth : 0 < width) (hUnmarked : IsUnmarked piece)
    (h : Fits width piece) :
    ink (truncate .fold width (align .ragged .fold width (dropExcessBlanks width piece))) =
      ink piece := by
  have hShorter : IsUnmarked (dropExcessBlanks width piece) :=
    hUnmarked.of_subset (List.take_prefix _ piece).subset
  rw [align, ink_truncate hShorter hWidth (fits_dropExcessBlanks width hUnmarked h),
    ink_dropExcessBlanks]

theorem ink_wrapLine (hWidth : 2 ≤ width) (hUnmarked : IsUnmarked line) :
    ink (wrapLine .ragged .fold width line).flatten = ink line := by
  have hExpanded := isUnmarked_expandTabs hUnmarked
  obtain ⟨blanks, hWords, hBlanks, hSolid⟩ :=
    exists_wordsWithBlanks (by simp [ink] : false = true ↔ ink ([] : List Char).reverse ≠ [])
      (expandTabs line)
  rw [List.reverse_nil, List.nil_append] at hWords
  have hEmpty : Fits width [] := Nat.zero_le _
  have hFits := fits_lineBreaks 0 hWidth hSolid hBlanks
    (by rwa [List.nil_append, ← hWords]) hEmpty
  rw [List.nil_append, ← hWords] at hFits
  have hPieces : ∀ piece ∈ cutAt 0 (expandTabs line)
      (lineBreaks .fold width 0 0 (wordsWithBlanks [] false (expandTabs line))),
      ink (truncate .fold width (align .ragged .fold width (dropExcessBlanks width piece))) =
        ink piece := fun piece hMem =>
    ink_wrappedPiece (by omega) (hExpanded.of_subset (isInfix_of_mem_cutAt hMem).subset)
      (hFits piece hMem)
  rw [wrapLine, ink_flatten, List.flatMap_map, List.flatMap_congr hPieces, ← ink_flatten,
    flatten_cutAt, ink_expandTabs]

/-- Fitting a text into lines loses nothing but blanks. -/
theorem ink_wrap (hWidth : 2 ≤ width) (hUnmarked : IsUnmarked text) :
    ink (wrap .ragged .fold width text).flatten = ink text := by
  have hLines : ∀ piece ∈ piecesBetween '\n' text,
      (wrapLine .ragged .fold width piece).flatMap ink = ink piece := by
    intro piece hMem
    have hPiece := hUnmarked.of_subset (isInfix_of_mem_piecesBetween hMem).subset
    rw [← ink_flatten, ink_wrapLine hWidth hPiece]
  rw [wrap, ink_flatten, List.flatMap_assoc, List.flatMap_congr hLines, ← ink_flatten,
    ink_piecesBetween (by decide)]

/-- Fitting any text into lines makes no ink. -/
theorem ink_wrap_sublist (width : Nat) (text : List Char) :
    (ink (wrap .ragged .fold width text).flatten).Sublist (ink text) := by
  have hPieces (piece : List Char) :
      (ink (truncate .fold width (align .ragged .fold width
        (dropExcessBlanks width piece)))).Sublist (ink piece) := by
    obtain ⟨shown, count, hLine, hShown⟩ := exists_wrappedPiece width piece
    rw [hLine, ink_append, ink_replicate, List.append_nil]
    exact (hShown.filter _).sublist
  have hLines (line : List Char) :
      (ink (wrapLine .ragged .fold width line).flatten).Sublist (ink line) := by
    rw [wrapLine, ink_flatten, List.flatMap_map, ← ink_expandTabs line]
    generalize lineBreaks .fold width 0 0 (wordsWithBlanks [] false (expandTabs line)) = breaks
    rw [← flatten_cutAt 0 (expandTabs line) breaks, ink_flatten, flatten_cutAt]
    exact List.Sublist.flatMap_right _ fun piece _ => hPieces piece
  have hFeed : isBlank '\n' = true := by decide
  rw [wrap, ink_flatten, List.flatMap_assoc, ← ink_piecesBetween hFeed text, ink_flatten]
  refine List.Sublist.flatMap_right _ fun line _ => ?_
  rw [← ink_flatten]
  exact hLines line

/-- Printing lines loses and makes no ink. -/
theorem ink_joinLines (lines : List (List Char)) :
    ink (joinLines lines).toList = ink lines.flatten := by
  have hFeed : ink ['\n'] = [] := rfl
  rw [joinLines, String.toList_ofList, ink_flatMap, ink_flatten]
  simp only [ink_append, hFeed, List.append_nil]

/-- A text in characters that can be printed can be printed in lines. -/
theorem prints_joinLines_wrap [Limits] (hBlank : Limits.canPrint ' ' = true)
    (hText : ∀ c ∈ text, Limits.canPrint c = true) :
    Limits.prints (joinLines (wrap .ragged .fold width text)) = true := by
  refine prints_joinLines fun line hLine c hIn => ?_
  by_cases hSame : c = ' '
  · exact hSame ▸ hBlank
  · obtain ⟨front, rest, hParts⟩ := List.append_of_mem hIn
    have hWord : [c] <:+: line := ⟨front, rest, by simp [hParts]⟩
    have hPart : [c] <:+: text :=
      isInfix_of_mem_wrap (by simpa using Ne.symm hSame) hLine hWord
    exact hText c (hPart.subset (by simp))

end Wrapped

end PatchCoverage.Console
