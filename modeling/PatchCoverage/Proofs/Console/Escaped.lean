import PatchCoverage.Proofs.Console.Verbatim

namespace PatchCoverage.Console.Markup

/-!
# Texts in their escaped form

A text is shown by its escaped form unless one of four things is in it, `IsLiteral`.  An
opening bracket that begins no tag is not escaped, so that a backslash in front of it
takes it as text once more and is lost.  A single backslash at the end is doubled so that
it does not touch what follows, and shown twice.  The codes of emoji are not escaped at
all, and some control characters are never shown.

That there is nothing else is `plain_escape_eq_ok_iff`.  Escaping gives a text back item
by item, `items_escapedFrom`; so what its escaped form shows differs from it at the
first bracket behind a backslash, or else at the end.
-/

/-- The number of backslashes at the end of a text. -/
def endingSlashes (text : List Char) : Nat :=
  (text.reverse.takeWhile (· == '\\')).length

/-- A text that its escaped form shows. -/
structure IsLiteral (codes : EmojiCodes) (text : String) : Prop where
  /-- No bracket stands behind a backslash, unless it begins a tag. -/
  brackets : ∀ slashes, Item.bracket slashes ∈ items 0 text.toList → slashes = 0
  /-- The text does not end in a single backslash. -/
  ending : endingSlashes text.toList ≠ 1
  /-- No code names an emoji, tags and the texts between them taken for themselves. -/
  codes : HasNoEmoji codes (escape text).toList
  /-- No character is hidden. -/
  hidden : ∀ c ∈ text.toList, isHidden c = false

/-! ## Backslashes at the end -/

section Ending

variable {text : List Char}

theorem endingSlashes_append_singleton (text : List Char) (c : Char) :
    endingSlashes (text ++ [c]) = if c = '\\' then endingSlashes text + 1 else 0 := by
  rw [endingSlashes, List.reverse_append, List.reverse_singleton, List.singleton_append,
    List.takeWhile_cons]
  by_cases hSlash : c = '\\'
  · rw [if_pos hSlash, hSlash]
    rfl
  · rw [if_neg hSlash, if_neg (by simpa using hSlash)]
    rfl

/-- Escaping changes nothing behind the last tag. -/
theorem endingSlashes_flatMap_escapeItem (found : List Item) :
    endingSlashes (found.flatMap escapeItem) = endingSlashes (found.flatMap Item.written) := by
  -- From the end, where the backslashes are counted.
  induction found using List.reverseRecOn with
  | nil => rfl
  | append_singleton found item ih =>
      rw [List.flatMap_append, List.flatMap_append, List.flatMap_singleton, List.flatMap_singleton]
      cases item with
      | character c =>
          rw [escapeItem, Item.written, endingSlashes_append_singleton,
            endingSlashes_append_singleton, ih]
      | bracket slashes =>
          rw [escapeItem, Item.written, ← List.append_assoc, ← List.append_assoc,
            endingSlashes_append_singleton, endingSlashes_append_singleton]
          rfl
      | tag slashes body =>
          rw [escapeItem, Item.written, ← List.append_assoc (found.flatMap escapeItem),
            ← List.append_assoc (found.flatMap Item.written), endingSlashes_append_singleton,
            endingSlashes_append_singleton]
          rfl

theorem endingSlashes_escapedFrom (text : List Char) :
    endingSlashes (escapedFrom 0 text) = endingSlashes text := by
  rw [escapedFrom, endingSlashes_flatMap_escapeItem, flatMap_written_items]
  rfl

theorem toList_escape (text : String) :
    (escape text).toList = escapedFrom 0 text.toList ++
      List.replicate (if endingSlashes text.toList = 1 then 1 else 0) '\\' := by
  rw [← endingSlashes_escapedFrom, escape, String.toList_ofList, ← escapedFrom, endingSlashes]
  split
  · rfl
  · exact (List.append_nil _).symm

end Ending

/-! ## What the escaped form shows -/

section Shown

variable {codes : EmojiCodes} {text : String}

theorem bareText_escape (text : String) :
    bareText (escape text).toList =
      ((items 0 text.toList).flatMap fun item => item.escaped.shown) ++
        List.replicate (if endingSlashes text.toList = 1 then 1 else 0) '\\' := by
  rw [bareText, toList_escape, items_escapedFrom, List.flatMap_append, List.flatMap_map,
    flatMap_replicate_character _ _ rfl]

theorem Item.shown_escaped_character (c : Char) :
    (Item.character c).escaped.shown = (Item.character c).written :=
  rfl

/-- A tag is shown as it is written. -/
theorem Item.shown_escaped_tag (slashes : Nat) (body : List Char) :
    (Item.tag slashes body).escaped.shown = (Item.tag slashes body).written := by
  have hHalf : (2 * slashes + 1) / 2 = slashes := by omega
  have hOdd : (2 * slashes + 1) % 2 = 1 := by omega
  rw [escaped, shown, written, hHalf, if_pos hOdd, List.append_assoc]

/-- A bracket loses a backslash. -/
theorem Item.shown_escaped_bracket (slashes : Nat) :
    (Item.bracket slashes).escaped.shown = List.replicate (slashes - 1) '\\' ++ ['['] :=
  rfl

/-- A text is shown as it is written exactly if no bracket loses a backslash and none is
added at the end. -/
theorem flatMap_shown_escaped_eq_iff (found : List Item) (ending : Nat) :
    (found.flatMap fun item => item.escaped.shown) ++ List.replicate ending '\\' =
        found.flatMap Item.written ↔
      (∀ slashes, Item.bracket slashes ∈ found → slashes = 0) ∧ ending = 0 := by
  induction found with
  | nil => simp
  | cons item found ih =>
      rw [List.flatMap_cons, List.flatMap_cons, List.append_assoc]
      cases item with
      | character c =>
          rw [Item.shown_escaped_character, List.append_cancel_left_eq, ih]
          simp
      | tag slashes body =>
          rw [Item.shown_escaped_tag, List.append_cancel_left_eq, ih]
          simp
      | bracket slashes =>
          cases slashes with
          | zero =>
              change ['['] ++ _ = ['['] ++ _ ↔ _
              rw [List.append_cancel_left_eq, ih]
              simp
          | succ slashes =>
              refine iff_of_false (fun hSame => ?_) fun h => ?_
              · -- The texts part where the one has its bracket and the other a backslash.
                rw [Item.shown_escaped_bracket, Item.written, Nat.add_sub_cancel,
                  List.replicate_succ', List.append_assoc, List.append_assoc, List.append_assoc,
                  List.append_cancel_left_eq] at hSame
                exact absurd (List.cons.inj hSame).1 (by decide)
              · exact absurd (h.1 (slashes + 1) List.mem_cons_self) (Nat.succ_ne_zero slashes)

theorem bareText_escape_eq_iff :
    bareText (escape text).toList = text.toList ↔
      (∀ slashes, Item.bracket slashes ∈ items 0 text.toList → slashes = 0) ∧
        endingSlashes text.toList ≠ 1 := by
  have hWritten : (items 0 text.toList).flatMap Item.written = text.toList :=
    flatMap_written_items 0 text.toList
  have hItems := flatMap_shown_escaped_eq_iff (items 0 text.toList)
    (if endingSlashes text.toList = 1 then 1 else 0)
  rw [hWritten] at hItems
  rw [bareText_escape, hItems]
  refine and_congr_right fun _ => ?_
  split <;> simp_all

/-- Only backslashes are lost or added. -/
theorem filter_flatMap_shown_escaped (found : List Item) :
    (found.flatMap fun item => item.escaped.shown).filter (· != '\\') =
      (found.flatMap Item.written).filter (· != '\\') := by
  rw [List.filter_flatMap, List.filter_flatMap]
  refine List.flatMap_congr fun item _ => ?_
  cases item with
  | character c => rfl
  | tag slashes body => rw [Item.shown_escaped_tag]
  | bracket slashes => simp [Item.shown_escaped_bracket, Item.written]

theorem filter_bareText_escape (text : String) :
    (bareText (escape text).toList).filter (· != '\\') = text.toList.filter (· != '\\') := by
  have hWritten : (items 0 text.toList).flatMap Item.written = text.toList :=
    flatMap_written_items 0 text.toList
  rw [bareText_escape, List.filter_append, filter_flatMap_shown_escaped, hWritten]
  simp

theorem count_bareText_escape (text : String) :
    (bareText (escape text).toList).count ':' = text.toList.count ':' := by
  rw [← List.count_filter (p := (· != '\\')) (by decide), filter_bareText_escape,
    List.count_filter (by decide)]

theorem isHidden_of_mem_bareText_escape (h : ∀ c ∈ text.toList, isHidden c = false) :
    ∀ c ∈ bareText (escape text).toList, isHidden c = false := by
  intro c hMem
  by_cases hSlash : c = '\\'
  · rw [hSlash]
    rfl
  · have hKept : c ∈ text.toList.filter (· != '\\') := by
      rw [← filter_bareText_escape]
      exact List.mem_filter.mpr ⟨hMem, by simpa using hSlash⟩
    exact h c (List.mem_of_mem_filter hKept)

/-- The escaped form of a text shows it exactly if it is literal. -/
theorem plain_escape_eq_ok_iff :
    plain codes (escape text) = .ok text.toList ↔ IsLiteral codes text := by
  constructor
  · intro h
    have hText := plain_eq_ok h
    have hHidden : ∀ c ∈ text.toList, isHidden c = false := fun c hMem => by
      rw [hText] at hMem
      simpa using (List.mem_filter.mp hMem).2
    -- Escaping neither adds nor takes colons, so a code that is replaced would be missed.
    have hCodes : HasNoEmoji codes (escape text).toList := by
      refine hasNoEmoji_of_count ?_
      rw [count_bareText_escape, congrArg (List.count ':') hText]
      exact List.filter_sublist.count_le _
    have hShown : bareText (escape text).toList = text.toList := by
      rw [shownText_of_hasNoEmoji hCodes, List.filter_eq_self.mpr] at hText
      · exact hText.symm
      · simpa using isHidden_of_mem_bareText_escape hHidden
    obtain ⟨hBrackets, hEnding⟩ := bareText_escape_eq_iff.mp hShown
    exact ⟨hBrackets, hEnding, hCodes, hHidden⟩
  · intro h
    have hShown := bareText_escape_eq_iff.mpr ⟨h.brackets, h.ending⟩
    rw [(isShown_escape [] text).plain, shownText_of_hasNoEmoji h.codes, hShown,
      List.filter_eq_self.mpr]
    simpa using h.hidden

/-- A text with neither a backslash nor a colon is literal if none of its characters is
hidden, whatever brackets it has. -/
theorem isLiteral_of_not_mem (codes : EmojiCodes) (hSlash : '\\' ∉ text.toList)
    (hColon : ':' ∉ text.toList) (hHidden : ∀ c ∈ text.toList, isHidden c = false) :
    IsLiteral codes text := by
  have hEnding : endingSlashes text.toList = 0 := by
    rw [endingSlashes, List.length_eq_zero_iff, List.takeWhile_eq_nil_iff]
    intro hSome hSame
    refine hSlash (List.mem_reverse.mp ?_)
    rw [← beq_iff_eq.mp hSame]
    exact List.getElem_mem hSome
  have hBrackets : ∀ slashes, Item.bracket slashes ∈ items 0 text.toList → slashes = 0 := by
    intro slashes hMem
    by_contra hSome
    refine hSlash ?_
    have hWritten : (items 0 text.toList).flatMap Item.written = text.toList :=
      flatMap_written_items 0 text.toList
    rw [← hWritten]
    exact List.mem_flatMap.mpr ⟨_, hMem, by simp [Item.written, hSome]⟩
  refine ⟨hBrackets, by omega, hasNoEmoji_of_count ?_, hHidden⟩
  rw [count_bareText_escape, List.count_eq_zero.mpr hColon]
  exact Nat.zero_le _

end Shown

end PatchCoverage.Console.Markup
