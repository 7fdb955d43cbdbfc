import PatchCoverage.Proofs.Console.Markup
import PatchCoverage.Proofs.Text.Width

namespace PatchCoverage

/-!
# The words in printed messages

Fitting a text into columns cuts it, drops blanks and fills it up with blanks; a
line that it makes is a part of the text with blanks behind it.

So no word comes up that was not in a text: one that is found in what is printed for
some messages is found in what one of them shows.
-/

namespace Console

/-! ## The lines of a wrapped text -/

section Lines

variable {text : List Char}

/-- Clusters that are cut to some columns are the first of them, with a blank behind
them if a wide one sticks out. -/
theorem exists_takeColumns (room : Nat) (clusters : List Cluster) :
    ∃ shown count, takeColumns room clusters = shown ++ List.replicate count ' ' ∧
      shown <+: clusters.flatMap Cluster.characters := by
  induction clusters generalizing room with
  | nil => exact ⟨[], 0, rfl, List.nil_prefix⟩
  | cons cluster clusters ih =>
      rw [takeColumns]
      split
      · exact ⟨[], 0, rfl, List.nil_prefix⟩
      · split
        · obtain ⟨shown, count, hTaken, hShown⟩ := ih (room - cluster.width)
          refine ⟨cluster.characters ++ shown, count, by rw [hTaken, List.append_assoc], ?_⟩
          rw [List.flatMap_cons]
          exact (List.prefix_append_right_inj _).mpr hShown
        · exact ⟨[], 1, rfl, List.nil_prefix⟩

/-- A text that is cut where it is too wide is its beginning, with blanks behind it. -/
theorem exists_truncate (width : Nat) (text : List Char) :
    ∃ shown count, truncate .fold width text = shown ++ List.replicate count ' ' ∧
      shown <+: text := by
  rw [truncate]
  split
  · exact ⟨text, 0, by simp, List.prefix_rfl⟩
  · rw [setWidth]
    split
    · exact ⟨[], 0, rfl, List.nil_prefix⟩
    · dsimp only
      split
      · exact ⟨text, _, rfl, List.prefix_rfl⟩
      · simpa only [flatMap_clusters] using exists_takeColumns width (clusters text)

/-- A line of a wrapped text is the beginning of a piece of it, with blanks behind it. -/
theorem exists_wrappedPiece (width : Nat) (piece : List Char) :
    ∃ shown count,
      truncate .fold width (align .ragged .fold width (dropExcessBlanks width piece)) =
        shown ++ List.replicate count ' ' ∧ shown <+: piece := by
  obtain ⟨shown, count, hLine, hShown⟩ := exists_truncate width (dropExcessBlanks width piece)
  exact ⟨shown, count, hLine, hShown.trans (List.take_prefix _ _)⟩

theorem isInfix_of_mem_cutAt {position : Nat} {breaks : List Nat} {piece : List Char}
    (h : piece ∈ cutAt position text breaks) : piece <:+: text := by
  induction breaks generalizing position text with
  | nil =>
      obtain rfl := List.mem_singleton.mp h
      exact List.infix_rfl
  | cons next breaks ih =>
      rcases List.mem_cons.mp h with rfl | hRest
      · exact (List.take_prefix _ _).isInfix
      · exact (ih hRest).trans (List.drop_suffix _ _).isInfix

/-- The pieces between separators are parts of the text, and the first one is its
beginning. -/
theorem exists_piecesBetween (separator : Char) (text : List Char) :
    ∃ piece pieces, piecesBetween separator text = piece :: pieces ∧ piece <+: text ∧
      ∀ other ∈ pieces, other <:+: text := by
  induction text with
  | nil => exact ⟨[], [], rfl, List.nil_prefix, by simp⟩
  | cons c text ih =>
      obtain ⟨piece, pieces, hPieces, hPiece, hOthers⟩ := ih
      rw [piecesBetween, hPieces]
      split
      · refine ⟨[], piece :: pieces, rfl, List.nil_prefix, ?_⟩
        rw [List.forall_mem_cons]
        exact ⟨hPiece.isInfix.trans (List.suffix_cons c text).isInfix,
          fun other hOther => (hOthers other hOther).trans (List.suffix_cons c text).isInfix⟩
      · exact ⟨c :: piece, pieces, rfl, (List.prefix_cons_inj c).mpr hPiece,
          fun other hOther => (hOthers other hOther).trans (List.suffix_cons c text).isInfix⟩

theorem isInfix_of_mem_piecesBetween {separator : Char} {piece : List Char}
    (h : piece ∈ piecesBetween separator text) : piece <:+: text := by
  obtain ⟨first, pieces, hPieces, hFirst, hOthers⟩ := exists_piecesBetween separator text
  rw [hPieces] at h
  rcases List.mem_cons.mp h with rfl | hRest
  · exact hFirst.isInfix
  · exact hOthers piece hRest

end Lines

/-! ## Words -/

section Words

variable {word front rest text : List Char}

/-- What has no separator in it does not reach over one. -/
theorem isInfix_left_or_right {separator : Char} (hWord : separator ∉ word)
    (h : word <:+: front ++ separator :: rest) : word <:+: front ∨ word <:+: rest := by
  rcases List.infix_append_iff.mp h with hLeft | hRight | ⟨first, second, rfl, hFirst, hSecond⟩
  · exact .inl hLeft
  · rcases List.infix_cons_iff.mp hRight with hBoth | hRest
    · cases word with
      | nil => exact .inl List.nil_infix
      | cons c word =>
          obtain rfl := (List.cons_prefix_cons.mp hBoth).1
          exact absurd List.mem_cons_self hWord
    · exact .inr hRest
  · -- A part that reaches over the separator has it inside, unless it ends in front of it.
    cases second with
    | nil =>
        rw [List.append_nil]
        exact .inl hFirst.isInfix
    | cons c second =>
        obtain rfl := (List.cons_prefix_cons.mp hSecond).1
        exact absurd (by simp) hWord

theorem isInfix_of_append_replicate {count : Nat} (hWord : ' ' ∉ word)
    (h : word <:+: front ++ List.replicate count ' ') : word <:+: front := by
  induction count generalizing front with
  | zero => simpa using h
  | succ count ih =>
      rcases isInfix_left_or_right hWord h with hFront | hBlanks
      · exact hFront
      · have hNil : word <:+: [] := ih (by simpa using hBlanks)
        exact hNil.trans List.nil_infix

theorem isInfix_of_replicate_append {count : Nat} (hWord : ' ' ∉ word)
    (h : word <:+: List.replicate count ' ' ++ rest) : word <:+: rest := by
  induction count with
  | zero => simpa using h
  | succ count ih =>
      have hBlanks : word <:+: [] ++ ' ' :: (List.replicate count ' ' ++ rest) := h
      rcases isInfix_left_or_right hWord hBlanks with hNil | hRest
      · exact hNil.trans List.nil_infix
      · exact ih hRest

/-- A word between blanks in place of tabs is a word of a piece between the tabs. -/
theorem exists_isInfix_of_fillTabs {column : Nat} {piece : List Char} {pieces : List (List Char)}
    (hWord : ' ' ∉ word) (h : word <:+: fillTabs column (piece :: pieces)) :
    ∃ other ∈ piece :: pieces, word <:+: other := by
  induction pieces generalizing column piece with
  | nil => exact ⟨piece, List.mem_cons_self, h⟩
  | cons second pieces ih =>
      rw [fillTabs, List.append_assoc, List.append_assoc, List.singleton_append] at h
      · rcases isInfix_left_or_right hWord h with hPiece | hRest
        · exact ⟨piece, List.mem_cons_self, hPiece⟩
        · obtain ⟨other, hOther, hIn⟩ := ih (isInfix_of_replicate_append hWord hRest)
          exact ⟨other, List.mem_cons_of_mem _ hOther, hIn⟩
      · simp

theorem isInfix_of_expandTabs (hWord : ' ' ∉ word) (h : word <:+: expandTabs text) :
    word <:+: text := by
  obtain ⟨piece, pieces, hPieces, -⟩ := exists_piecesBetween '\t' text
  rw [expandTabs, hPieces] at h
  obtain ⟨other, hOther, hIn⟩ := exists_isInfix_of_fillTabs hWord h
  exact hIn.trans (isInfix_of_mem_piecesBetween (hPieces ▸ hOther))

/-- A word in a line of a wrapped text is a word of the text. -/
theorem isInfix_of_mem_wrap {width : Nat} {line : List Char} (hWord : ' ' ∉ word)
    (hLine : line ∈ wrap .ragged .fold width text) (h : word <:+: line) : word <:+: text := by
  obtain ⟨paragraph, hParagraph, hLine⟩ := List.mem_flatMap.mp hLine
  obtain ⟨piece, hPiece, rfl⟩ := List.mem_map.mp hLine
  obtain ⟨shown, count, hShown, hFront⟩ := exists_wrappedPiece width piece
  rw [hShown] at h
  -- Each stage of fitting a line cuts it or fills it up with blanks; a word has none.
  have hPart : shown <:+: expandTabs paragraph :=
    hFront.isInfix.trans (isInfix_of_mem_cutAt hPiece)
  have hExpanded : word <:+: expandTabs paragraph :=
    (isInfix_of_append_replicate hWord h).trans hPart
  exact (isInfix_of_expandTabs hWord hExpanded).trans (isInfix_of_mem_piecesBetween hParagraph)

/-- A word in lines that are printed one after the other is a word of one of them. -/
theorem exists_isInfix_of_flatMap {lines : List (List Char)} (hWord : '\n' ∉ word)
    (h : word <:+: (lines.flatMap fun line => line ++ ['\n']) ++ rest) :
    (∃ line ∈ lines, word <:+: line) ∨ word <:+: rest := by
  induction lines with
  | nil => exact .inr h
  | cons line lines ih =>
      rw [List.flatMap_cons, List.append_assoc, List.append_assoc, List.singleton_append] at h
      rcases isInfix_left_or_right hWord h with hLine | hRest
      · exact .inl ⟨line, List.mem_cons_self, hLine⟩
      · rcases ih hRest with ⟨other, hOther, hIn⟩ | hIn
        · exact .inl ⟨other, List.mem_cons_of_mem line hOther, hIn⟩
        · exact .inr hIn

/-- What is shown by a message, if its tags are right. -/
def Block.Shows (codes : EmojiCodes) : Block → List Char → Prop
  | .message text, shown => Markup.plain codes text = .ok shown
  | .table _, _ => False

/-- A word in what is printed for messages is a word of what one of them shows. -/
theorem exists_shown_of_isInfix_print [Limits] {terminal : Terminal} {blocks : List Block}
    (hMessages : ∀ block ∈ blocks, ∃ text, block = .message text)
    (hBlank : ' ' ∉ word) (hFeed : '\n' ∉ word) (hSome : word ≠ [])
    (h : word <:+: (print terminal blocks).text.toList) :
    ∃ block ∈ blocks, ∃ shown, block.Shows terminal.emoji shown ∧ word <:+: shown := by
  have hNothing : ¬ word <:+: "".toList := fun hNil => hSome (List.infix_nil.mp hNil)
  induction blocks with
  | nil => exact absurd h hNothing
  | cons block blocks ih =>
      obtain ⟨⟨text, rfl⟩, hOthers⟩ := List.forall_mem_cons.mp hMessages
      rw [print] at h
      cases hLines : (Block.message text).lines terminal with
      | error error =>
          rw [hLines] at h
          exact absurd h hNothing
      | ok lines =>
          obtain ⟨shown, hShown, rfl⟩ := map_eq_ok_iff.mp hLines
          rw [hLines] at h
          dsimp only [Printed.cons] at h
          split at h
          · rw [String.toList_append, joinLines, String.toList_ofList] at h
            rcases exists_isInfix_of_flatMap hFeed h with ⟨line, hLine, hIn⟩ | hRest
            · exact ⟨_, List.mem_cons_self, shown, hShown, isInfix_of_mem_wrap hBlank hLine hIn⟩
            · obtain ⟨other, hOther, hIn⟩ := ih hOthers hRest
              exact ⟨other, List.mem_cons_of_mem _ hOther, hIn⟩
          · exact absurd h hNothing

end Words

end Console

end PatchCoverage
