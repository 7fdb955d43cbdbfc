import Mathlib.Algebra.Order.BigOperators.Group.List
import Mathlib.Algebra.Order.Group.Nat
import PatchCoverage.Proofs.Console.Lines
import PatchCoverage.Proofs.Console.Verbatim

namespace PatchCoverage.Console

/-!
# Messages with a text from outside

A notice is a message that shows a text from outside behind a text of its own.  Notices
are printed in full, up to the ends of lines and blanks there, if and only if all the
texts from outside are verbatim and the terminal carries what the notices are to show,
`Notice.printedInFull_iff`.

That this is needed is a matter of counting.  No message shows more colons than it is to
show, and one with the code of an emoji shows fewer; so no text has such a code if none
is missing in all that is printed.  Then no message shows more ink than it is to show,
and the ink falls short as soon as one text is not verbatim or a line of one is cut.
-/

/-- The characters of a text that are not hidden. -/
def visible (text : List Char) : List Char :=
  text.filter fun c => !Markup.isHidden c

/-- The lines that a text makes in a terminal, without what is hidden in it. -/
def Terminal.folded (terminal : Terminal) (text : List Char) : String :=
  joinLines (wrap .ragged .fold terminal.columns (visible text))

/-- A terminal carries a text if folding it loses nothing but blanks and its output
channel has codes for the lines. -/
structure Terminal.Carries [Limits] (terminal : Terminal) (text : String) : Prop where
  folds : ink (terminal.folded text.toList).toList = ink (visible text.toList)
  prints : Limits.prints (terminal.folded text.toList) = true

/-- What is printed is some texts in full: the lines of each, with nothing left out but
blanks. -/
structure PrintedInFull (terminal : Terminal) (texts : List String) (printed : String) :
    Prop where
  lines : printed.toList = texts.flatMap fun text => (terminal.folded text.toList).toList
  complete : ink printed.toList = texts.flatMap fun text => ink text.toList

section Ink

variable {part text : List Char}

theorem length_ink_le_of_sublist (h : part.Sublist text) :
    (ink part).length ≤ (ink text).length :=
  (h.filter _).length_le

theorem count_ink {c : Char} (h : isBlank c = false) (text : List Char) :
    (ink text).count c = text.count c :=
  List.count_filter (by simp [h])

/-- A text that loses nothing but blanks where characters are hidden has no other hidden
characters. -/
theorem isBlank_of_isHidden (h : (ink text).length ≤ (ink (visible text)).length) :
    ∀ c ∈ text, Markup.isHidden c = true → isBlank c = true := by
  have hInk : ink (visible text) = (ink text).filter fun c => !Markup.isHidden c :=
    List.filter_comm ..
  rw [hInk] at h
  have hAll := List.length_filter_eq_length_iff.mp (Nat.le_antisymm (List.length_filter_le ..) h)
  intro c hMem hHidden
  by_contra hSolid
  have hInText : c ∈ ink text := List.mem_filter.mpr ⟨hMem, by simpa using hSolid⟩
  simpa [hHidden] using hAll c hInText

theorem ink_visible (h : ∀ c ∈ text, Markup.isHidden c = true → isBlank c = true) :
    ink (visible text) = ink text := by
  rw [visible, ink, List.filter_filter]
  refine List.filter_congr fun c hMem => ?_
  have hBlank := h c hMem
  cases hHidden : Markup.isHidden c <;> simp_all

theorem ink_folded_sublist (terminal : Terminal) (text : List Char) :
    (ink (terminal.folded text).toList).Sublist (ink (visible text)) := by
  rw [Terminal.folded, ink_joinLines]
  exact ink_wrap_sublist _ _

/-- A terminal with two columns carries every text without marks in characters that can
be printed. -/
theorem Terminal.carries_of_isUnmarked [Limits] {terminal : Terminal} {text : String}
    (hColumns : 2 ≤ terminal.columns) (hUnmarked : IsUnmarked text.toList)
    (hText : ∀ c ∈ ' ' :: text.toList, Limits.canPrint c = true) : terminal.Carries text := by
  obtain ⟨hBlank, hOthers⟩ := List.forall_mem_cons.mp hText
  have hPart : visible text.toList ⊆ text.toList := List.filter_sublist.subset
  constructor
  · rw [Terminal.folded, ink_joinLines, ink_wrap hColumns (hUnmarked.of_subset hPart)]
  · exact prints_joinLines_wrap hBlank fun c hMem => hOthers c (hPart hMem)

end Ink

/-- Values that are together no less than values above them are the same. -/
theorem forall_le_of_sum_map_le {α M : Type} [AddCommMonoid M] [LinearOrder M]
    [IsOrderedCancelAddMonoid M] {values : List α} {few many : α → M}
    (hFewer : ∀ value ∈ values, few value ≤ many value)
    (h : (values.map many).sum ≤ (values.map few).sum) :
    ∀ value ∈ values, many value ≤ few value := by
  intro value hMem
  by_contra hLess
  exact h.not_gt (List.sum_lt_sum few many hFewer ⟨value, hMem, lt_of_not_ge hLess⟩)

/-- A message that is to show a text from outside behind a text of its own, with tags
only around it. -/
structure Notice where
  /-- The message, with its tags. -/
  message : String
  /-- What it shows in front. -/
  front : String
  /-- The text from outside. -/
  body : String
  /-- It shows one after the other. -/
  shown : Markup.bareText message.toList = front.toList ++ Markup.bareText body.toList
  /-- It has no codes but those of the text. -/
  noEmoji : Markup.HasOnlyText body.toList → ∀ codes,
    Markup.HasNoEmoji codes message.toList ↔ codes.IsFree body.toList
  /-- Its tags are right unless those of the text are wrong. -/
  isShown : Markup.HasOnlyText body.toList → Markup.IsShown [] message.toList
  /-- Its own text is ordinary. -/
  own : Markup.IsOrdinary front.toList

namespace Notice

/-- What a notice is to show. -/
def text (notice : Notice) : String :=
  notice.front ++ notice.body

/-- A notice as a part of the output. -/
def block (notice : Notice) : Block :=
  .message notice.message

/-- A text alone. -/
def ofText (text : String) : Notice where
  message := text
  front := ""
  body := text
  shown := rfl
  noEmoji h _ := Markup.hasNoEmoji_iff h
  isShown := Markup.isShown_of_hasOnlyText
  own := nofun

theorem toList_styled (front style body : String) :
    (front ++ ("[" ++ style ++ "]" ++ body ++ "[/" ++ style ++ "]")).toList =
      front.toList ++ '[' :: (style.toList ++ ']' ::
        (body.toList ++ '[' :: ('/' :: style.toList ++ [']']))) := by
  simp

theorem toList_marked (mark style text : String) :
    ("[" ++ style ++ "]" ++ mark ++ "[/" ++ style ++ "] " ++ text).toList =
      '[' :: (style.toList ++ ']' ::
        (mark.toList ++ '[' :: ('/' :: style.toList ++ ']' :: ([' '] ++ text.toList)))) := by
  simp

/-- A text in a style, behind an ordinary text without colons. -/
def ofStyled (front : String) {style : String} (hStyle : Markup.IsStyle style) (body : String)
    (hFront : Markup.IsOrdinary front.toList) (hColon : ':' ∉ front.toList)
    (hEnd : body.toList.getLast? ≠ some '\\') : Notice where
  message := front ++ ("[" ++ style ++ "]" ++ body ++ "[/" ++ style ++ "]")
  front := front
  body := body
  shown := by
    rw [toList_styled, Markup.bareText_plain_append hFront.isPlain,
      Markup.bareText_styled hStyle hEnd, Markup.bareText_nil, List.append_nil]
  noEmoji h codes := by
    rw [toList_styled, Markup.hasNoEmoji_plain_append_iff hFront.isPlain hColon,
      Markup.hasNoEmoji_tag_iff hStyle.opening,
      Markup.hasNoEmoji_append_tag_iff h hEnd hStyle.closing]
    exact and_iff_left Markup.hasNoEmoji_nil
  isShown h := by
    rw [toList_styled]
    exact Markup.IsShown.plain_append hFront.isPlain
      (Markup.IsShown.styled_text hStyle h hEnd (Markup.isShown_nil []))
  own := hFront

/-- A text behind a mark in a style. -/
def ofMarked (mark : String) {style : String} (hStyle : Markup.IsStyle style) (text : String)
    (hMark : Markup.IsOrdinary mark.toList) (hColon : ':' ∉ mark.toList) : Notice where
  message := "[" ++ style ++ "]" ++ mark ++ "[/" ++ style ++ "] " ++ text
  front := mark ++ " "
  body := text
  shown := by
    rw [toList_marked, Markup.bareText_styled hStyle hMark.isPlain.getLast?_ne,
      Markup.bareText_plain_append (by decide),
      Markup.bareText_of_hasOnlyText hMark.isPlain.hasOnlyText, String.toList_append,
      List.append_assoc]
    rfl
  noEmoji h codes := by
    rw [toList_marked, Markup.hasNoEmoji_tag_iff hStyle.opening,
      Markup.hasNoEmoji_append_tag_iff hMark.isPlain.hasOnlyText hMark.isPlain.getLast?_ne
        hStyle.closing,
      Markup.hasNoEmoji_plain_append_iff (by decide) (by decide), Markup.hasNoEmoji_iff h]
    exact and_iff_right (EmojiCodes.isFree_of_not_mem hColon)
  isShown h := by
    rw [toList_marked]
    exact Markup.IsShown.styled hStyle hMark.isPlain
      (Markup.IsShown.plain_append (by decide) (Markup.isShown_of_hasOnlyText h))
  own := by
    rw [String.toList_append]
    exact hMark.append (by decide)

/-- What is printed for a notice, if its tags are right. -/
def printed (terminal : Terminal) (notice : Notice) : String :=
  terminal.folded (Markup.shownText terminal.emoji notice.message.toList)

section Shown

variable {terminal : Terminal} {notice : Notice}

theorem toList_text : notice.text.toList = notice.front.toList ++ notice.body.toList :=
  String.toList_append

theorem shownText_of_isVerbatim (h : Markup.IsVerbatim terminal.emoji notice.body.toList) :
    Markup.shownText terminal.emoji notice.message.toList = notice.text.toList := by
  rw [Markup.shownText_of_hasNoEmoji ((notice.noEmoji h.onlyText _).mpr h.codes), notice.shown,
    Markup.bareText_of_hasOnlyText h.onlyText, toList_text]

theorem plain_of_isVerbatim (h : Markup.IsVerbatim terminal.emoji notice.body.toList) :
    Markup.plain terminal.emoji notice.message = .ok (visible notice.text.toList) := by
  rw [(notice.isShown h.onlyText).plain, shownText_of_isVerbatim h]
  rfl

theorem ink_visible_text (h : Markup.IsVerbatim terminal.emoji notice.body.toList) :
    ink (visible notice.text.toList) = ink notice.text.toList := by
  rw [toList_text]
  refine ink_visible (List.forall_mem_append.mpr ⟨fun c hMem hHidden => ?_, h.hidden⟩)
  exact absurd hHidden (Bool.eq_false_iff.mp (notice.own.not_isHidden c hMem))

/-! ## What a notice may lose -/

theorem bareText_sublist : (Markup.bareText notice.message.toList).Sublist notice.text.toList := by
  rw [notice.shown, toList_text]
  exact (List.Sublist.refl _).append (Markup.bareText_sublist _)

theorem count_bareText_le :
    (Markup.bareText notice.message.toList).count ':' ≤ notice.text.toList.count ':' :=
  bareText_sublist.count_le _

/-- What is printed for a notice has no more colons than its tags leave of it. -/
theorem count_printed_le :
    (ink (notice.printed terminal).toList).count ':' ≤
      (Markup.shownText terminal.emoji notice.message.toList).count ':' := by
  refine ((ink_folded_sublist terminal _).count_le _).trans ?_
  rw [count_ink (by decide)]
  exact List.filter_sublist.count_le _

theorem count_printed_le_text :
    (ink (notice.printed terminal).toList).count ':' ≤ (ink notice.text.toList).count ':' := by
  rw [count_ink (by decide) notice.text.toList]
  exact count_printed_le.trans ((Markup.count_shownText_le _ _).trans count_bareText_le)

theorem hasNoEmoji_of_count
    (h : (ink notice.text.toList).count ':' ≤ (ink (notice.printed terminal).toList).count ':') :
    Markup.HasNoEmoji terminal.emoji notice.message.toList := by
  rw [count_ink (by decide) notice.text.toList] at h
  exact Markup.hasNoEmoji_of_count (count_bareText_le.trans (h.trans count_printed_le))

/-- The ink that is printed for a notice without codes of emoji, and the ink that its tags
leave of it. -/
theorem length_ink_printed_le
    (h : Markup.HasNoEmoji terminal.emoji notice.message.toList) :
    (ink (notice.printed terminal).toList).length ≤
      (ink (visible (Markup.bareText notice.message.toList))).length := by
  rw [← Markup.shownText_of_hasNoEmoji h]
  exact (ink_folded_sublist terminal _).length_le

theorem length_ink_printed_le_text
    (h : Markup.HasNoEmoji terminal.emoji notice.message.toList) :
    (ink (notice.printed terminal).toList).length ≤ (ink notice.text.toList).length :=
  (length_ink_printed_le h).trans
    (length_ink_le_of_sublist (List.filter_sublist.trans bareText_sublist))

/-- A notice that loses nothing but blanks has a verbatim text, and its lines lose nothing
either. -/
theorem isVerbatim_of_length_ink (hCodes : Markup.HasNoEmoji terminal.emoji notice.message.toList)
    (h : (ink notice.text.toList).length ≤ (ink (notice.printed terminal).toList).length) :
    Markup.IsVerbatim terminal.emoji notice.body.toList ∧
      ink (terminal.folded notice.text.toList).toList = ink (visible notice.text.toList) := by
  have hShown := h.trans (length_ink_printed_le hCodes)
  have hOnly : Markup.HasOnlyText notice.body.toList := by
    refine Markup.hasOnlyText_of_length_ink ?_
    have hBare := hShown.trans (length_ink_le_of_sublist List.filter_sublist)
    rw [notice.shown, toList_text, ink_append, ink_append, List.length_append,
      List.length_append] at hBare
    omega
  have hText : Markup.bareText notice.message.toList = notice.text.toList := by
    rw [notice.shown, Markup.bareText_of_hasOnlyText hOnly, toList_text]
  -- With its tags only around it, what is hidden in the message is hidden in its text.
  have hHidden := isBlank_of_isHidden (hText ▸ hShown)
  constructor
  · refine ⟨hOnly, (notice.noEmoji hOnly _).mp hCodes, fun c hMem => hHidden c ?_⟩
    rw [toList_text]
    exact List.mem_append_right _ hMem
  · rw [printed, Markup.shownText_of_hasNoEmoji hCodes, hText, ← ink_visible hHidden] at h
    exact (ink_folded_sublist terminal _).eq_of_length_le h

end Shown

section Printed

variable [Limits] {terminal : Terminal} {notices : List Notice}

/-- What is printed for a notice that is shown, and for what follows it. -/
theorem print_cons {notice : Notice} (blocks : List Block)
    (h : Markup.IsVerbatim terminal.emoji notice.body.toList)
    (hCarries : terminal.Carries notice.text) :
    print terminal (notice.block :: blocks) =
      { print terminal blocks with
        text := terminal.folded notice.text.toList ++ (print terminal blocks).text } := by
  rw [print, block, Block.lines, plain_of_isVerbatim h]
  exact Printed.cons_of_prints hCarries.prints _

/-- Notices with verbatim texts are printed in full. -/
theorem printedInFull_of_isVerbatim
    (h : ∀ notice ∈ notices, Markup.IsVerbatim terminal.emoji notice.body.toList ∧
      terminal.Carries notice.text) :
    (print terminal (notices.map block)).error? = none ∧
      PrintedInFull terminal (notices.map text) (print terminal (notices.map block)).text := by
  induction notices with
  | nil => exact ⟨rfl, rfl, rfl⟩
  | cons notice notices ih =>
      obtain ⟨⟨hNotice, hCarries⟩, hOthers⟩ := List.forall_mem_cons.mp h
      obtain ⟨hError, hPrinted⟩ := ih hOthers
      rw [List.map_cons, List.map_cons, print_cons _ hNotice hCarries]
      refine ⟨hError, ?_, ?_⟩
      · rw [String.toList_append, hPrinted.lines, List.flatMap_cons]
      · rw [String.toList_append, ink_append, hCarries.folds, ink_visible_text hNotice,
          hPrinted.complete, List.flatMap_cons]

/-- Printing to the end prints every notice, and the channel had codes for all of it. -/
theorem text_print_of_error? (hError : (print terminal (notices.map block)).error? = none) :
    (print terminal (notices.map block)).text.toList =
        notices.flatMap (fun notice => (notice.printed terminal).toList) ∧
      ∀ notice ∈ notices, Limits.prints (notice.printed terminal) = true := by
  induction notices with
  | nil => exact ⟨rfl, List.forall_mem_nil _⟩
  | cons notice notices ih =>
      rw [List.map_cons, print] at hError ⊢
      cases hLines : notice.block.lines terminal with
      | error error =>
          rw [hLines] at hError
          cases hError
      | ok lines =>
          obtain ⟨shown, hPlain, rfl⟩ := map_eq_ok_iff.mp hLines
          have hText : joinLines (wrap .ragged .fold terminal.columns shown) =
              notice.printed terminal := by
            rw [Markup.plain_eq_ok hPlain]
            rfl
          rw [hLines] at hError
          dsimp only at hError ⊢
          rw [hText] at hError ⊢
          cases hPrints : Limits.prints (notice.printed terminal) with
          | false =>
              rw [Printed.cons_of_not_prints hPrints] at hError
              cases hError
          | true =>
              rw [Printed.cons_of_prints hPrints] at hError ⊢
              obtain ⟨hRest, hAll⟩ := ih hError
              refine ⟨?_, List.forall_mem_cons.mpr ⟨hPrints, hAll⟩⟩
              rw [String.toList_append, hRest, List.flatMap_cons]

/-- Notices are printed in full exactly if their texts are verbatim and the terminal
carries them. -/
theorem printedInFull_iff :
    ((print terminal (notices.map block)).error? = none ∧
        PrintedInFull terminal (notices.map text) (print terminal (notices.map block)).text) ↔
      ∀ notice ∈ notices, Markup.IsVerbatim terminal.emoji notice.body.toList ∧
        terminal.Carries notice.text := by
  refine ⟨?_, printedInFull_of_isVerbatim⟩
  rintro ⟨hError, hPrinted⟩
  obtain ⟨hText, hPrints⟩ := text_print_of_error? hError
  have hInk : (notices.flatMap fun notice => ink (notice.printed terminal).toList) =
      notices.flatMap fun notice => ink notice.text.toList := by
    rw [← ink_flatMap, ← hText, hPrinted.complete, List.flatMap_map]
  -- Colons first: they tell that no code was replaced, so that only ink can be missing.
  have hCodes : ∀ notice ∈ notices, Markup.HasNoEmoji terminal.emoji notice.message.toList := by
    have hColons := congrArg (List.count ':') hInk
    rw [List.count_flatMap, List.count_flatMap] at hColons
    exact fun notice hMem => hasNoEmoji_of_count
      (forall_le_of_sum_map_le (fun _ _ => count_printed_le_text) (Nat.le_of_eq hColons.symm)
        notice hMem)
  have hLengths := congrArg List.length hInk
  rw [List.length_flatMap, List.length_flatMap] at hLengths
  intro notice hMem
  have hLength := forall_le_of_sum_map_le
    (fun other hOther => length_ink_printed_le_text (hCodes other hOther))
    (Nat.le_of_eq hLengths.symm) notice hMem
  obtain ⟨hVerbatim, hFolds⟩ := isVerbatim_of_length_ink (hCodes notice hMem) hLength
  refine ⟨hVerbatim, hFolds, ?_⟩
  have hOwn := hPrints notice hMem
  rwa [printed, shownText_of_isVerbatim hVerbatim] at hOwn

end Printed

end Notice

end PatchCoverage.Console
