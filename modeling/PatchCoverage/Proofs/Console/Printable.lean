import PatchCoverage.Proofs.Console.Verbatim
import PatchCoverage.Proofs.Console.Wrap

namespace PatchCoverage.Console

/-!
# Blocks that the output channel has codes for

Fitting a text into columns cuts it and fills it up with blanks, and three dots may stand
for what is cut; a table adds its frame.  So nothing is printed but what the messages show,
blanks, dots and the characters of a frame: where the channel has codes for these, every
block whose tags are right is printed, `error?_print_of_printable`.
-/

theorem exists_of_mem_zipWith {α β γ : Type} {combine : α → β → γ} {first : List α}
    {second : List β} {c : γ} (h : c ∈ List.zipWith combine first second) :
    ∃ a ∈ first, ∃ b ∈ second, combine a b = c := by
  rw [← List.map_uncurry_zip_eq_zipWith] at h
  obtain ⟨⟨a, b⟩, hPair, rfl⟩ := List.mem_map.mp h
  obtain ⟨ha, hb⟩ := List.of_mem_zip hPair
  exact ⟨a, ha, b, hb, rfl⟩

/-- What holds of all in some lists and of all between them holds of all in the one list
that they make up. -/
theorem forall_mem_intercalate {α : Type} {p : α → Prop} {separator : List α}
    {parts : List (List α)} (hSeparator : ∀ a ∈ separator, p a)
    (hParts : ∀ part ∈ parts, ∀ a ∈ part, p a) : ∀ a ∈ separator.intercalate parts, p a := by
  induction parts with
  | nil => simp [List.intercalate]
  | cons part parts ih =>
      obtain ⟨hPart, hOthers⟩ := List.forall_mem_cons.mp hParts
      cases parts with
      | nil => simpa [List.intercalate] using hPart
      | cons second parts =>
          have hRest := ih hOthers
          simp only [List.intercalate, List.intersperse_cons_cons, List.flatten_cons,
            List.forall_mem_append] at hRest ⊢
          exact ⟨hPart, hSeparator, hRest⟩

section Printable

variable [Limits]

/-- The output channel has codes for all characters of a text. -/
def Printable (text : List Char) : Prop :=
  ∀ c ∈ text, Limits.canPrint c = true

/-- The characters that a terminal adds to what is shown. -/
def ownCharacters : List Char :=
  " …┏┳┓━┡╇┩└┴┘─┃│".toList

variable {text rest : List Char}

theorem Printable.append (h : Printable text) (hRest : Printable rest) :
    Printable (text ++ rest) := by
  intro c hMem
  exact (List.mem_append.mp hMem).elim (h c) (hRest c)

theorem Printable.of_subset (h : Printable text) (hPart : rest ⊆ text) : Printable rest :=
  fun c hMem => h c (hPart hMem)

theorem Printable.replicate {c : Char} (h : Limits.canPrint c = true) (count : Nat) :
    Printable (List.replicate count c) := by
  intro other hMem
  rwa [List.eq_of_mem_replicate hMem]

/-- A line across a table is printed where its four characters are. -/
theorem printable_of_mem_ruleLine {rule : Rule}
    (h : Printable [rule.left, rule.between, rule.right, rule.fill]) (widths : List Nat) :
    ∀ part ∈ rule.line widths, Printable part := by
  simp only [Printable, List.forall_mem_cons] at h
  obtain ⟨hLeft, hBetween, hRight, hFill, -⟩ := h
  have hMiddle : Printable
      ([rule.between].intercalate (widths.map fun width => List.replicate width rule.fill)) := by
    refine forall_mem_intercalate (by simpa using hBetween) fun part hPart => ?_
    obtain ⟨width, -, rfl⟩ := List.mem_map.mp hPart
    exact Printable.replicate hFill width
  rw [Rule.line, List.forall_mem_singleton, List.cons_append]
  intro c hMem
  rcases List.mem_cons.mp hMem with rfl | hRest
  · exact hLeft
  · rcases List.mem_append.mp hRest with hIn | hLast
    · exact hMiddle c hIn
    · rwa [List.mem_singleton.mp hLast]

/-! ## Lines -/

variable (hOwn : Printable ownCharacters)

include hOwn

theorem canPrint_blank : Limits.canPrint ' ' = true :=
  hOwn ' ' (by decide)

theorem printable_blanks (count : Nat) : Printable (List.replicate count ' ') :=
  .replicate (canPrint_blank hOwn) count

theorem printable_expandTabs (h : Printable text) : Printable (expandTabs text) := by
  intro c hMem
  -- What is no blank was in the text before its tabs became blanks.
  by_cases hBlank : c = ' '
  · exact hBlank ▸ canPrint_blank hOwn
  · obtain ⟨front, rest, hParts⟩ := List.append_of_mem hMem
    have hWord : [c] <:+: expandTabs text := ⟨front, rest, by simp [hParts]⟩
    have hIn : [c] <:+: text := isInfix_of_expandTabs (by simpa using Ne.symm hBlank) hWord
    exact h c (hIn.subset (List.mem_singleton.mpr rfl))

theorem printable_setWidth (total : Nat) (h : Printable text) :
    Printable (setWidth total text) := by
  unfold setWidth
  split
  · exact nofun
  · dsimp only
    split
    · exact h.append (printable_blanks hOwn _)
    · obtain ⟨shown, count, hTaken, hShown⟩ := exists_takeColumns total (clusters text)
      rw [hTaken]
      rw [flatMap_clusters] at hShown
      exact (h.of_subset hShown.subset).append (printable_blanks hOwn count)

theorem printable_truncate (overflow : Overflow) (width : Nat) (h : Printable text) :
    Printable (truncate overflow width text) := by
  unfold truncate
  split
  · exact h
  · cases overflow with
    | fold => exact printable_setWidth hOwn width h
    | ellipsis =>
        have hDots : Printable ['…'] := hOwn.of_subset (by decide)
        exact (printable_setWidth hOwn (width - 1) h).append hDots

theorem printable_align (alignment : Alignment) (overflow : Overflow) (width : Nat)
    (h : Printable text) : Printable (align alignment overflow width text) := by
  have hTrimmed : Printable (trimEnd isBlank text) := by
    obtain ⟨blanks, hText, -⟩ := exists_trimEnd_append text
    exact h.of_subset fun c hMem => hText ▸ List.mem_append_left blanks hMem
  cases alignment with
  | ragged => exact h
  | left => exact (printable_truncate hOwn overflow width h).append (printable_blanks hOwn _)
  | centre =>
      exact ((printable_blanks hOwn _).append
        (printable_truncate hOwn overflow width hTrimmed)).append (printable_blanks hOwn _)
  | right =>
      exact (printable_blanks hOwn _).append (printable_truncate hOwn overflow width hTrimmed)

/-- A text that can be printed can be printed in lines. -/
theorem printable_of_mem_wrap {alignment : Alignment} {overflow : Overflow} {width : Nat}
    {line : List Char} (h : Printable text) (hLine : line ∈ wrap alignment overflow width text) :
    Printable line := by
  obtain ⟨paragraph, hParagraph, hLine⟩ := List.mem_flatMap.mp hLine
  obtain ⟨piece, hPiece, rfl⟩ := List.mem_map.mp hLine
  have hPrintable : Printable piece :=
    (printable_expandTabs hOwn
      (h.of_subset (isInfix_of_mem_piecesBetween hParagraph).subset)).of_subset
        (isInfix_of_mem_cutAt hPiece).subset
  exact printable_truncate hOwn overflow width
    (printable_align hOwn alignment overflow width (hPrintable.of_subset (List.take_subset _ _)))

/-! ## Tables -/

theorem printable_takeParts {line : PartedLine} (h : ∀ part ∈ line, Printable part)
    (room : Nat) : Printable (takeParts room line) := by
  induction line generalizing room with
  | nil => exact nofun
  | cons part line ih =>
      obtain ⟨hPart, hLine⟩ := List.forall_mem_cons.mp h
      rw [takeParts]
      split
      · exact hPart.append (ih hLine _)
      · exact printable_setWidth hOwn room hPart

theorem printable_crop {line : PartedLine} (h : ∀ part ∈ line, Printable part) (width : Nat) :
    Printable (line.crop width) := by
  unfold PartedLine.crop
  split
  · intro c hMem
    obtain ⟨part, hPart, hIn⟩ := List.mem_flatten.mp hMem
    exact h part hPart c hIn
  · exact printable_takeParts hOwn h width

theorem printable_of_mem_cellLines {alignment : Alignment} {width : Nat} {line : PartedLine}
    (h : Printable text) (hLine : line ∈ cellLines alignment width text) :
    ∀ part ∈ line, Printable part := by
  unfold cellLines at hLine
  split at hLine
  · cases hLine
  · obtain ⟨shown, hShown, rfl⟩ := List.mem_map.mp hLine
    have hBlank : Printable [' '] := printable_blanks hOwn 1
    simp only [List.forall_mem_cons]
    exact ⟨hBlank, printable_of_mem_wrap hOwn h hShown, printable_blanks hOwn _, hBlank, nofun⟩

theorem printable_of_mem_rowLines {bar : Char} (hBar : Limits.canPrint bar = true)
    {widths : List Nat} {cells : List (List PartedLine)}
    (h : ∀ cell ∈ cells, ∀ line ∈ cell, ∀ part ∈ line, Printable part) :
    ∀ line ∈ rowLines bar widths cells, ∀ part ∈ line, Printable part := by
  have hSeparator : ∀ part ∈ [[bar]], Printable part := by
    simpa [Printable] using hBar
  unfold rowLines
  intro line hLine
  obtain ⟨index, -, rfl⟩ := List.mem_map.mp hLine
  have hParts : ∀ parts ∈ List.zipWith (fun width (cell : List PartedLine) =>
      cell[index]?.getD [List.replicate width ' ']) widths cells,
      ∀ part ∈ parts, Printable part := by
    intro parts hMem
    obtain ⟨width, -, cell, hCell, rfl⟩ := exists_of_mem_zipWith hMem
    cases hFound : cell[index]? with
    | none => simpa [hFound] using printable_blanks hOwn width
    | some found => simpa [hFound] using h cell hCell found (List.mem_of_getElem? hFound)
  have hMiddle := forall_mem_intercalate hSeparator hParts
  simp only [List.cons_append, List.forall_mem_cons, List.forall_mem_append]
  have hBarText : Printable [bar] := by simpa [Printable] using hBar
  exact ⟨hBarText, hMiddle, hBarText, nofun⟩

/-! ## Blocks -/

/-- A channel has codes for what is shown of a message. -/
def ShowsPrintable (codes : EmojiCodes) (message : String) : Prop :=
  ∀ shown, Markup.plain codes message = .ok shown → Printable shown

/-- A row of texts, each fitted into its column, is printed where they and the bar are. -/
theorem printable_of_mem_cells {bar : Char} (hBar : bar ∈ ownCharacters) {widths : List Nat}
    {columns : List (Alignment × Nat)} {texts : List (List Char)}
    (hTexts : ∀ text ∈ texts, Printable text) {line : PartedLine}
    (hLine : line ∈ rowLines bar widths (List.zipWith (fun (alignment, width) text =>
      cellLines alignment width text) columns texts)) :
    ∀ part ∈ line, Printable part := by
  refine printable_of_mem_rowLines hOwn (hOwn bar hBar) (fun cell hCell => ?_) line hLine
  obtain ⟨⟨alignment, width⟩, -, text, hText, rfl⟩ := exists_of_mem_zipWith hCell
  exact fun line hLine => printable_of_mem_cellLines hOwn (hTexts text hText) hLine

/-- The messages in a block. -/
def Block.messages : Block → List String
  | .message text => [text]
  | .table grid => grid.title :: (grid.columns.map Column.heading ++ grid.rows.flatten)

theorem Table.IsShown.exists_printable_lines {table : Table} {terminal : Terminal}
    (h : table.IsShown)
    (hMessages : ∀ message ∈ (Block.table table).messages, ShowsPrintable terminal.emoji message) :
    ∃ lines, table.lines terminal = .ok lines ∧ ∀ line ∈ lines, Printable line := by
  have hPlain {message : String} (hShown : Markup.IsShown [] message.toList)
      (hPrintable : ShowsPrintable terminal.emoji message) :
      ∃ shown, Markup.plain terminal.emoji message = .ok shown ∧ Printable shown :=
    ⟨_, hShown.plain terminal.emoji, hPrintable _ (hShown.plain terminal.emoji)⟩
  simp only [Block.messages, List.forall_mem_cons, List.forall_mem_append, List.forall_mem_map,
    List.mem_flatten] at hMessages
  obtain ⟨hTitle, hHeadings, hCells⟩ := hMessages
  obtain ⟨title, hTitle, hTitleText⟩ := hPlain h.title hTitle
  obtain ⟨headings, hHeadings, hHeadingTexts⟩ := exists_mapM_eq_ok_and fun column hColumn =>
    hPlain (h.headings column hColumn) (hHeadings column hColumn)
  obtain ⟨rows, hRows, hRowTexts⟩ := exists_mapM_eq_ok_and fun row hRow =>
    exists_mapM_eq_ok_and fun cell hCell =>
      hPlain (h.cells row hRow cell hCell) (hCells cell ⟨row, hRow, hCell⟩)
  rw [Table.lines, hTitle]
  simp only [bind, Except.bind, hHeadings, hRows]
  refine ⟨_, rfl, List.forall_mem_map.mpr fun line hLine => printable_crop hOwn ?_ _⟩
  have hRule {rule : Rule} (hFour : [rule.left, rule.between, rule.right, rule.fill] ⊆
      ownCharacters) (widths : List Nat) : ∀ part ∈ rule.line widths, Printable part :=
    printable_of_mem_ruleLine (hOwn.of_subset hFour) widths
  -- A table is its title, the rule above, the headings, the rule below them, its rows and
  -- the rule at the end.
  simp only [List.mem_append, List.mem_map, List.mem_singleton, List.mem_flatMap] at hLine
  rcases hLine with (((((⟨shown, hShown, rfl⟩ | rfl) | hHead) | rfl) | ⟨row, hIn, hBody⟩) | rfl)
  · rw [List.forall_mem_singleton]
    exact printable_of_mem_wrap hOwn hTitleText hShown
  · exact hRule (by decide) _
  · exact printable_of_mem_cells hOwn (by decide) hHeadingTexts hHead
  · exact hRule (by decide) _
  · exact printable_of_mem_cells hOwn (by decide) (hRowTexts row hIn) hBody
  · exact hRule (by decide) _

/-- A block whose tags are right, in characters that can be printed, comes to lines that
can be printed. -/
theorem Block.IsShown.exists_printable_lines {block : Block} {terminal : Terminal}
    (h : block.IsShown)
    (hMessages : ∀ message ∈ block.messages, ShowsPrintable terminal.emoji message) :
    ∃ lines, block.lines terminal = .ok lines ∧ ∀ line ∈ lines, Printable line := by
  cases block with
  | message text =>
      have hPlain := Markup.IsShown.plain h terminal.emoji
      have hText := hMessages text (List.mem_singleton.mpr rfl) _ hPlain
      refine ⟨_, by rw [Block.lines, hPlain]; rfl, ?_⟩
      exact fun line hLine => printable_of_mem_wrap hOwn hText hLine
  | table grid => exact Table.IsShown.exists_printable_lines hOwn h hMessages

/-- Blocks whose tags are right, in characters that can be printed, are printed to the
end. -/
theorem error?_print_of_printable {blocks : List Block} {terminal : Terminal}
    (h : ∀ block ∈ blocks, block.IsShown)
    (hMessages : ∀ block ∈ blocks, ∀ message ∈ block.messages,
      ShowsPrintable terminal.emoji message) :
    (print terminal blocks).error? = none := by
  induction blocks with
  | nil => rfl
  | cons block blocks ih =>
      obtain ⟨hBlock, hOthers⟩ := List.forall_mem_cons.mp h
      obtain ⟨hFirst, hRest⟩ := List.forall_mem_cons.mp hMessages
      obtain ⟨lines, hLines, hPrintable⟩ := hBlock.exists_printable_lines hOwn hFirst
      rw [print, hLines]
      dsimp only
      rw [Printed.cons_of_prints (prints_joinLines hPrintable)]
      exact ih hOthers hRest

end Printable

/-- Without emoji a message shows nothing but characters of its own. -/
theorem showsPrintable_of_printable [Limits] {message : String} (h : Printable message.toList) :
    ShowsPrintable .empty message := by
  intro shown hShown
  have hNoEmoji : Markup.HasNoEmoji .empty message.toList :=
    fun run _ name _ => rfl
  rw [Markup.plain_eq_ok hShown, Markup.shownText_of_hasNoEmoji hNoEmoji]
  exact h.of_subset ((List.filter_sublist).trans (Markup.bareText_sublist _)).subset

end PatchCoverage.Console
