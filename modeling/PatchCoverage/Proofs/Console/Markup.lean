import PatchCoverage.Proofs.Failure
import PatchCoverage.Proofs.Number.Characters
import PatchCoverage.Proofs.Scoring.Average
import PatchCoverage.Publish.Terminal

namespace PatchCoverage

/-!
# Messages that can be shown

A message is refused when a tag in it closes nothing or names a colour that cannot
be read.  A text that comes from outside stands in a message in its escaped form:
every tag in it has an odd number of backslashes in front, so nothing in it opens
or closes anything.  Escaping can make no new tag, since it puts backslashes only
in front of tags.

`IsShown.plain` and `isShown_escape` are the two ends of this; between them a
message is taken apart into escaped texts, plain texts and the tags that the
program writes itself.
-/

namespace Console

namespace Markup

/-! ## Escaped texts -/

/-- An item that is shown as it is written: none that opens or closes. -/
def Item.IsText : Item → Prop
  | .tag slashes _ => slashes % 2 = 1
  | _ => True

theorem items_replicate (slashes count : Nat) (rest : List Char) :
    items slashes (List.replicate count '\\' ++ rest) = items (slashes + count) rest := by
  induction count generalizing slashes with
  | zero => rfl
  | succ count ih =>
      rw [List.replicate_succ, List.cons_append, items, if_pos rfl, ih]
      congr 1
      omega

theorem takeToBracket?_replicate (count : Nat) {rest : List Char}
    (h : takeToBracket? rest = none) :
    takeToBracket? (List.replicate count '\\' ++ rest) = none := by
  induction count with
  | zero => exact h
  | succ count ih => simp [List.replicate_succ, takeToBracket?, ih]

/-- A tag is the same whatever follows it. -/
theorem takeToBracket?_append {characters body rest after : List Char}
    (h : takeToBracket? characters = some (body, rest)) :
    takeToBracket? (body ++ ']' :: after) = some (body, after) := by
  fun_induction takeToBracket? characters generalizing body rest with
  | case1 => cases h
  | case2 characters =>
      obtain ⟨rfl, rfl⟩ := Prod.mk.inj (Option.some.inj h)
      rfl
  | case3 => cases h
  | case4 c characters hClosing hOpening ih =>
      obtain ⟨⟨body', rest'⟩, hFound, hSame⟩ := Option.map_eq_some_iff.mp h
      obtain ⟨rfl, rfl⟩ := Prod.mk.inj hSame
      rw [List.cons_append, takeToBracket?, ih hFound]
      · rfl
      · exact hClosing
      · exact hOpening

theorem takeTag?_append {characters body rest after : List Char}
    (h : takeTag? characters = some (body, rest)) :
    takeTag? (body ++ ']' :: after) = some (body, after) := by
  unfold takeTag? at h
  split at h
  · cases h
  · next c characters =>
    split at h
    · next hBegins =>
      obtain ⟨⟨body', rest'⟩, hFound, hSame⟩ := Option.map_eq_some_iff.mp h
      obtain ⟨rfl, rfl⟩ := Prod.mk.inj hSame
      rw [List.cons_append, takeTag?, if_pos hBegins, takeToBracket?_append hFound]
      rfl
    · cases h

section Items

variable {slashes : Nat} {rest body after : List Char}

theorem items_backslash : items slashes ('\\' :: rest) = items (slashes + 1) rest := by
  rw [items, if_pos rfl]

theorem items_of_takeTag? (h : takeTag? rest = some (body, after)) :
    items slashes ('[' :: rest) = .tag slashes body :: items 0 after := by
  rw [items, if_neg (by decide), if_pos rfl]
  split
  · next hFound =>
    obtain ⟨rfl, rfl⟩ := Prod.mk.inj (Option.some.inj (h.symm.trans hFound))
    rfl
  · next hNone => simp [h] at hNone

theorem items_of_takeTag?_eq_none (h : takeTag? rest = none) :
    items slashes ('[' :: rest) = .bracket slashes :: items 0 rest := by
  rw [items, if_neg (by decide), if_pos rfl]
  split
  · next hFound => simp [h] at hFound
  · rfl

theorem items_of_ne {c : Char} (hSlash : c ≠ '\\') (hBracket : c ≠ '[') :
    items slashes (c :: rest) =
      List.replicate slashes (.character '\\') ++ .character c :: items 0 rest := by
  rw [items, if_neg hSlash, if_neg hBracket]

end Items

/-- An item as it is found in the escaped form of a text. -/
def Item.escaped : Item → Item
  | .tag slashes body => .tag (2 * slashes + 1) body
  | item => item

/-- A text with a backslash too many in front of every tag. -/
def escapedFrom (slashes : Nat) (characters : List Char) : List Char :=
  (items slashes characters).flatMap escapeItem

section Escaped

variable {slashes : Nat} {rest body after : List Char}

theorem flatMap_escapeItem_replicate :
    (List.replicate slashes (Item.character '\\')).flatMap escapeItem =
      List.replicate slashes '\\' := by
  induction slashes with
  | zero => rfl
  | succ slashes ih =>
      rw [List.replicate_succ, List.flatMap_cons, ih]
      rfl

theorem escapedFrom_nil : escapedFrom slashes [] = List.replicate slashes '\\' := by
  rw [escapedFrom, items, flatMap_escapeItem_replicate]

theorem escapedFrom_backslash :
    escapedFrom slashes ('\\' :: rest) = escapedFrom (slashes + 1) rest := by
  rw [escapedFrom, items_backslash, escapedFrom]

theorem escapedFrom_of_takeTag? (h : takeTag? rest = some (body, after)) :
    escapedFrom slashes ('[' :: rest) =
      List.replicate (2 * slashes + 1) '\\' ++ '[' :: (body ++ ']' :: escapedFrom 0 after) := by
  rw [escapedFrom, items_of_takeTag? h, List.flatMap_cons, ← escapedFrom]
  simp [escapeItem]

theorem escapedFrom_of_takeTag?_eq_none (h : takeTag? rest = none) :
    escapedFrom slashes ('[' :: rest) =
      List.replicate slashes '\\' ++ '[' :: escapedFrom 0 rest := by
  rw [escapedFrom, items_of_takeTag?_eq_none h, List.flatMap_cons, ← escapedFrom]
  simp [escapeItem]

theorem escapedFrom_of_ne {c : Char} (hSlash : c ≠ '\\') (hBracket : c ≠ '[') :
    escapedFrom slashes (c :: rest) =
      List.replicate slashes '\\' ++ c :: escapedFrom 0 rest := by
  rw [escapedFrom, items_of_ne hSlash hBracket, List.flatMap_append,
    flatMap_escapeItem_replicate, List.flatMap_cons, ← escapedFrom]
  rfl

/-- Backslashes in front of a text stay in front of its escaped form. -/
theorem exists_escapedFrom_succ (slashes : Nat) (characters : List Char) :
    ∃ others, escapedFrom (slashes + 1) characters = '\\' :: others := by
  induction characters generalizing slashes with
  | nil => exact ⟨_, by rw [escapedFrom_nil, List.replicate_succ]⟩
  | cons c rest ih =>
      by_cases hSlash : c = '\\'
      · subst hSlash
        rw [escapedFrom_backslash]
        exact ih (slashes + 1)
      by_cases hBracket : c = '['
      · subst hBracket
        cases hTag : takeTag? rest with
        | none =>
            exact ⟨_, by rw [escapedFrom_of_takeTag?_eq_none hTag, List.replicate_succ,
              List.cons_append]⟩
        | some found =>
            exact ⟨_, by rw [escapedFrom_of_takeTag? hTag, List.replicate_succ, List.cons_append]⟩
      · exact ⟨_, by rw [escapedFrom_of_ne hSlash hBracket, List.replicate_succ,
          List.cons_append]⟩

/-- Where no bracket closes before another opens, none does in the escaped form: what
is put in is no bracket. -/
theorem takeToBracket?_escapedFrom {characters : List Char} (ending : Nat)
    (h : takeToBracket? characters = none) :
    takeToBracket? (escapedFrom slashes characters ++ List.replicate ending '\\') = none := by
  induction characters generalizing slashes with
  | nil =>
      rw [escapedFrom_nil, ← List.append_nil (List.replicate ending _)]
      exact takeToBracket?_replicate _ (takeToBracket?_replicate _ rfl)
  | cons c rest ih =>
      by_cases hSlash : c = '\\'
      · subst hSlash
        rw [escapedFrom_backslash]
        exact ih (Option.map_eq_none_iff.mp h)
      by_cases hBracket : c = '['
      · subst hBracket
        cases hTag : takeTag? rest with
        | none =>
            rw [escapedFrom_of_takeTag?_eq_none hTag, List.append_assoc]
            exact takeToBracket?_replicate _ rfl
        | some found =>
            rw [escapedFrom_of_takeTag? hTag, List.append_assoc]
            exact takeToBracket?_replicate _ rfl
      · rw [escapedFrom_of_ne hSlash hBracket, List.append_assoc]
        refine takeToBracket?_replicate _ ?_
        have hClosing : c ≠ ']' := by
          rintro rfl
          cases h
        rw [takeToBracket?] at h
        · rw [List.cons_append, takeToBracket?, ih (Option.map_eq_none_iff.mp h)]
          · rfl
          · exact fun hSame => absurd hSame hClosing
          · exact fun hSame => absurd hSame hBracket
        · exact fun hSame => absurd hSame hClosing
        · exact fun hSame => absurd hSame hBracket

/-- A bracket that begins no tag begins none in the escaped form. -/
theorem takeTag?_escapedFrom {characters : List Char} (ending : Nat)
    (h : takeTag? characters = none) :
    takeTag? (escapedFrom 0 characters ++ List.replicate ending '\\') = none := by
  cases characters with
  | nil =>
      rw [escapedFrom_nil]
      cases ending <;> rfl
  | cons c rest =>
      by_cases hSlash : c = '\\'
      · subst hSlash
        obtain ⟨others, hOthers⟩ := exists_escapedFrom_succ 0 rest
        rw [escapedFrom_backslash, hOthers]
        rfl
      by_cases hBracket : c = '['
      · subst hBracket
        cases hTag : takeTag? rest with
        | none =>
            rw [escapedFrom_of_takeTag?_eq_none hTag]
            rfl
        | some found =>
            rw [escapedFrom_of_takeTag? hTag]
            rfl
      · rw [takeTag?] at h
        rw [escapedFrom_of_ne hSlash hBracket, List.replicate_zero, List.nil_append,
          List.cons_append, takeTag?]
        split
        · next hBegins =>
          rw [if_pos hBegins] at h
          rw [takeToBracket?_escapedFrom ending (Option.map_eq_none_iff.mp h)]
          rfl
        · rfl

/-- Escaping puts backslashes in front of tags and makes no tag: reading an escaped text
finds the items of the text, with more backslashes before the tags. -/
theorem items_escapedFrom (slashes ending : Nat) (characters : List Char) :
    items 0 (escapedFrom slashes characters ++ List.replicate ending '\\') =
      (items slashes characters).map Item.escaped ++
        List.replicate ending (.character '\\') := by
  fun_induction items slashes characters with
  | case1 slashes =>
      rw [escapedFrom_nil, ← List.append_nil (List.replicate ending _), items_replicate,
        items_replicate, items, List.map_replicate, Nat.zero_add]
      exact List.replicate_append_replicate.symm
  | case2 slashes rest ih =>
      rw [escapedFrom_backslash]
      exact ih
  | case3 slashes rest body after hTag hSlash ih =>
      rw [escapedFrom_of_takeTag? hTag, List.append_assoc, items_replicate, List.cons_append,
        List.append_assoc, List.cons_append, items_of_takeTag? (takeTag?_append hTag), ih,
        Nat.zero_add]
      rfl
  | case4 slashes rest hTag hSlash ih =>
      rw [escapedFrom_of_takeTag?_eq_none hTag, List.append_assoc, items_replicate,
        List.cons_append, items_of_takeTag?_eq_none (takeTag?_escapedFrom ending hTag), ih,
        Nat.zero_add]
      rfl
  | case5 slashes c rest hSlash hBracket ih =>
      rw [escapedFrom_of_ne hSlash hBracket, List.append_assoc, items_replicate,
        List.cons_append, items_of_ne hSlash hBracket, ih, Nat.zero_add, List.map_append,
        List.map_replicate, List.append_assoc]
      rfl

theorem Item.isText_escaped (item : Item) : item.escaped.IsText := by
  cases item with
  | character c => trivial
  | bracket slashes => trivial
  | tag slashes body =>
      change (2 * slashes + 1) % 2 = 1
      omega

/-- No tag of an escaped text opens or closes. -/
theorem isText_of_mem_items_escapedFrom (slashes ending : Nat) (characters : List Char) :
    ∀ item ∈ items 0 (escapedFrom slashes characters ++ List.replicate ending '\\'),
      item.IsText := by
  rw [items_escapedFrom]
  refine List.forall_mem_append.mpr ⟨List.forall_mem_map.mpr fun item _ => item.isText_escaped, ?_⟩
  intro item hItem
  rw [List.eq_of_mem_replicate hItem]
  trivial

theorem exists_toList_escape (text : String) :
    ∃ ending, (escape text).toList = escapedFrom 0 text.toList ++ List.replicate ending '\\' := by
  rw [escape, String.toList_ofList, ← escapedFrom]
  split
  · exact ⟨1, rfl⟩
  · exact ⟨0, by simp⟩

end Escaped

/-! ## Messages -/

/-- A message that is shown, given the open tags: every tag closes what is open, and
every colour can be read. -/
def IsShown (opened : List OpenTag) (characters : List Char) : Prop :=
  checkTags opened (items 0 characters) = .ok () ∧
    ∀ item ∈ items 0 characters, item.paintsUnreadable = false

/-- What a text shows if its tags are right. -/
def shownText (codes : EmojiCodes) (text : List Char) : List Char :=
  (runs (items 0 text)).flatMap codes.replace

theorem IsShown.plain {message : String} (h : IsShown [] message.toList) (codes : EmojiCodes) :
    plain codes message =
      .ok ((shownText codes message.toList).filter fun c => !isHidden c) := by
  obtain ⟨hTags, hColours⟩ := h
  have hNone : (items 0 message.toList).any Item.paintsUnreadable = false := by
    simpa [List.any_eq_false] using hColours
  rw [Markup.plain, hTags]
  simp only [bind, Except.bind, hNone]
  rfl

/-- Items that open and close nothing leave open what is open. -/
theorem checkTags_append {opened : List OpenTag} {found : List Item}
    (h : ∀ item ∈ found, item.IsText) (more : List Item) :
    checkTags opened (found ++ more) = checkTags opened more := by
  induction found with
  | nil => rfl
  | cons item found ih =>
      obtain ⟨hItem, hFound⟩ := List.forall_mem_cons.mp h
      cases item with
      | character c => exact ih hFound
      | bracket slashes => exact ih hFound
      | tag slashes body =>
          have hOdd : slashes % 2 = 1 := hItem
          rw [List.cons_append, checkTags, if_pos hOdd]
          exact ih hFound

theorem Item.IsText.paintsUnreadable_eq_false {item : Item} (h : item.IsText) :
    item.paintsUnreadable = false := by
  cases item with
  | character c => rfl
  | bracket slashes => rfl
  | tag slashes body =>
      have hOdd : slashes % 2 = 1 := h
      simp [Item.paintsUnreadable, hOdd]

/-- A text is shown in its escaped form, whatever is in it. -/
theorem isShown_escape (opened : List OpenTag) (text : String) :
    IsShown opened (escape text).toList := by
  obtain ⟨ending, hEscape⟩ := exists_toList_escape text
  have hText := isText_of_mem_items_escapedFrom 0 ending text.toList
  rw [IsShown, hEscape, ← List.append_nil (items 0 _), checkTags_append hText, List.append_nil]
  exact ⟨rfl, fun item hItem => (hText item hItem).paintsUnreadable_eq_false⟩

theorem isShown_nil (opened : List OpenTag) : IsShown opened [] := by
  have hNone : items 0 [] = [] := by
    rw [items]
    rfl
  rw [IsShown, hNone]
  exact ⟨rfl, List.forall_mem_nil _⟩

/-- A text that has neither brackets nor backslashes. -/
def IsPlain (characters : List Char) : Prop :=
  ∀ c ∈ characters, c ≠ '\\' ∧ c ≠ '['

instance : DecidablePred IsPlain :=
  fun characters => List.decidableBAll (fun c => c ≠ '\\' ∧ c ≠ '[') characters

theorem IsPlain.append {first second : List Char} (hFirst : IsPlain first)
    (hSecond : IsPlain second) : IsPlain (first ++ second) :=
  List.forall_mem_append.mpr ⟨hFirst, hSecond⟩

theorem IsPlain.cons {c : Char} {rest : List Char} (hFirst : c ≠ '\\' ∧ c ≠ '[')
    (h : IsPlain rest) : IsPlain (c :: rest) :=
  List.forall_mem_cons.mpr ⟨hFirst, h⟩

/-- A plain text is its characters. -/
theorem items_plain_append {front : List Char} (hFront : IsPlain front) (rest : List Char) :
    items 0 (front ++ rest) = front.map .character ++ items 0 rest := by
  induction front with
  | nil => rfl
  | cons c front ih =>
      obtain ⟨⟨hSlash, hBracket⟩, hOthers⟩ := List.forall_mem_cons.mp hFront
      rw [List.cons_append, items_of_ne hSlash hBracket, ih hOthers]
      rfl

theorem isText_of_mem_map_character {front : List Char} :
    ∀ item ∈ front.map Item.character, item.IsText :=
  List.forall_mem_map.mpr fun _ _ => trivial

theorem checkTags_items_plain {opened : List OpenTag} {front : List Char}
    (hFront : IsPlain front) (rest : List Char) :
    checkTags opened (items 0 (front ++ rest)) = checkTags opened (items 0 rest) := by
  rw [items_plain_append hFront, checkTags_append isText_of_mem_map_character]

/-- A plain text may stand in front of what is shown. -/
theorem IsShown.plain_append {opened : List OpenTag} {front rest : List Char}
    (hFront : IsPlain front) (h : IsShown opened rest) : IsShown opened (front ++ rest) := by
  obtain ⟨hTags, hColours⟩ := h
  refine ⟨(checkTags_items_plain hFront rest).trans hTags, ?_⟩
  rw [items_plain_append hFront]
  refine List.forall_mem_append.mpr ⟨fun item hItem => ?_, hColours⟩
  exact (isText_of_mem_map_character item hItem).paintsUnreadable_eq_false

/-- A tag may stand in front of what is shown when the tags are open that are open
after it. -/
theorem IsShown.tag {opened after : List OpenTag} {body rest : List Char}
    (hTag : takeTag? (body ++ [']']) = some (body, []))
    (hApply : applyTag opened body = .ok after) (hColour : paintsUnreadable body = false)
    (h : IsShown after rest) : IsShown opened ('[' :: (body ++ ']' :: rest)) := by
  obtain ⟨hTags, hColours⟩ := h
  rw [IsShown, items_of_takeTag? (takeTag?_append hTag)]
  refine ⟨?_, List.forall_mem_cons.mpr ⟨?_, hColours⟩⟩
  · rw [checkTags, if_neg (by decide), hApply]
    exact hTags
  · simpa [Item.paintsUnreadable] using hColour

theorem readColour_ne_unreadable {word : String} (h : isUnreadableColour word.toList = false) :
    readColour word ≠ .error .unreadableColour := by
  rw [readColour, h]
  split
  · contradiction
  · split <;> simp

/-- Words name no colour that cannot be read if none of them is one. -/
theorem readStyle_ne_unreadable {words : List String}
    (h : ∀ word ∈ words, isUnreadableColour (lowerCase word).toList = false) (style : Style) :
    readStyle style words ≠ .error .unreadableColour := by
  fun_induction readStyle style words with
  | case1 => simp
  | case2 style word colour rest hOn ih =>
      obtain ⟨-, hColour, hRest⟩ := by simpa only [List.forall_mem_cons] using h
      exact bind_ne_error (readColour_ne_unreadable hColour) fun found => ih found hRest
  | case3 style first word rest hNot name hName ih =>
      obtain ⟨-, -, hRest⟩ := by simpa only [List.forall_mem_cons] using h
      exact ih hRest
  | case4 => simp
  | case5 style word address rest hLink ih =>
      obtain ⟨-, -, hRest⟩ := by simpa only [List.forall_mem_cons] using h
      exact ih hRest
  | case6 style word rest name hOn hNot hLink hName ih =>
      exact ih (List.forall_mem_cons.mp h).2
  | case7 style word rest hOn hNot hLink hNone ih =>
      obtain ⟨hColour, hRest⟩ := List.forall_mem_cons.mp h
      exact bind_ne_error (readColour_ne_unreadable hColour) fun found => ih found hRest

/-- A style that is named by a tag without parameters, in words none of which is a
colour that cannot be read. -/
structure IsStyle (style : String) : Prop where
  opening : takeTag? (style.toList ++ [']']) = some (style.toList, [])
  closing : takeTag? ('/' :: style.toList ++ [']']) = some ('/' :: style.toList, [])
  name : tagName style.toList = style.toList
  noSlash : style.toList.head? ≠ some '/'
  trimmed : trimBlank style = style
  nonempty : style.isEmpty = false
  words : ∀ word ∈ styleWords style, isUnreadableColour (lowerCase word).toList = false

theorem exists_styleName? {text : String}
    (h : ∀ word ∈ styleWords text, isUnreadableColour (lowerCase word).toList = false) :
    ∃ name, styleName? text = some name := by
  unfold styleName?
  dsimp only
  split
  · exact ⟨_, rfl⟩
  · split
    · exact ⟨_, rfl⟩
    · exact ⟨_, rfl⟩
    · next hUnreadable => exact absurd hUnreadable (readStyle_ne_unreadable h {})

namespace IsStyle

variable {style : String}

theorem tagParameters?_eq_none (h : IsStyle style) : tagParameters? style.toList = none := by
  have hParts := @List.takeWhile_append_dropWhile _ (· != '=') style.toList
  have hName : style.toList.takeWhile (· != '=') = style.toList := h.name
  rw [hName] at hParts
  rw [tagParameters?, List.append_right_eq_self.mp hParts]
  rfl

theorem tagParameters?_closing_eq_none (h : IsStyle style) :
    tagParameters? ('/' :: style.toList) = none :=
  h.tagParameters?_eq_none

theorem tagName_closing (h : IsStyle style) :
    tagName ('/' :: style.toList) = '/' :: style.toList :=
  congrArg ('/' :: ·) h.name

/-- A tag that names a style opens it. -/
theorem exists_opening (h : IsStyle style) :
    ∃ name, knownName style = .ok name ∧ applyTag [] style.toList = .ok [⟨name, none⟩] := by
  obtain ⟨name, hName⟩ := exists_styleName? h.words
  have hKnown : knownName style = .ok name := by
    rw [knownName, hName]
  refine ⟨name, hKnown, ?_⟩
  rw [applyTag, h.name, h.tagParameters?_eq_none]
  split
  · next hSlash => exact absurd (by rw [hSlash]; rfl) h.noSlash
  · rw [String.ofList_toList, hKnown]
    rfl

/-- The tag that closes a style closes just that. -/
theorem exists_opened (h : IsStyle style) :
    ∃ opened, applyTag [] style.toList = .ok opened ∧
      applyTag opened ('/' :: style.toList) = .ok [] := by
  obtain ⟨name, hKnown, hOpens⟩ := h.exists_opening
  refine ⟨[⟨name, none⟩], hOpens, ?_⟩
  rw [applyTag, h.tagName_closing]
  simp only [String.ofList_toList, h.trimmed, h.nonempty, hKnown, Bool.false_eq_true, if_false,
    Except.map, takeNamed?, if_true, bind, Except.bind]
  rfl

/-- A tag that closes a style closes nothing where no tag is open. -/
theorem applyTag_closing_nil (h : IsStyle style) :
    applyTag [] ('/' :: style.toList) =
      .error (.unmatched (String.ofList ('/' :: style.toList))) := by
  obtain ⟨name, hKnown, -⟩ := h.exists_opening
  rw [applyTag, h.tagName_closing]
  simp only [String.ofList_toList, h.trimmed, h.nonempty, hKnown, Bool.false_eq_true, if_false,
    Except.map, takeNamed?, bind, Except.bind]

theorem paintsUnreadable_eq_false (h : IsStyle style) :
    paintsUnreadable style.toList = false ∧ paintsUnreadable ('/' :: style.toList) = false := by
  constructor
  · rw [paintsUnreadable, h.tagParameters?_eq_none]
  · rw [paintsUnreadable, h.tagParameters?_closing_eq_none]

end IsStyle

/-- A plain text in a style may stand in front of what is shown. -/
theorem IsShown.styled {style : String} {text rest : List Char} (hStyle : IsStyle style)
    (hText : IsPlain text) (h : IsShown [] rest) :
    IsShown [] ('[' :: (style.toList ++ ']' ::
      (text ++ '[' :: ('/' :: style.toList ++ ']' :: rest)))) := by
  obtain ⟨opened, hOpens, hCloses⟩ := hStyle.exists_opened
  obtain ⟨hOpening, hClosing⟩ := hStyle.paintsUnreadable_eq_false
  have hClosed : IsShown opened ('[' :: ('/' :: style.toList ++ ']' :: rest)) :=
    IsShown.tag hStyle.closing hCloses hClosing h
  exact IsShown.tag hStyle.opening hOpens hOpening (hClosed.plain_append hText)

/-! ## Numbers -/

theorem IsPlain.of_isNumeral {text : List Char} (h : IsNumeral text) : IsPlain text := by
  intro c hMem
  have hNumeral := h c hMem
  constructor
  · rintro rfl
    exact absurd hNumeral (by decide)
  · rintro rfl
    exact absurd hNumeral (by decide)

theorem isPlain_integerText (value : Int) : IsPlain (integerText value).toList :=
  .of_isNumeral (isNumeral_integerText value)

theorem isPlain_percentageText (percentage : Binary64) :
    IsPlain (percentageText percentage).toList :=
  .of_isNumeral (isNumeral_percentageText percentage)

theorem isPlain_shortestText (value : Binary64) : IsPlain value.shortestText.toList :=
  .of_isNumeral value.isNumeral_shortestText

end Markup

/-! ## Blocks -/

/-- A table whose title, headings and cells are shown. -/
structure Table.IsShown (table : Table) : Prop where
  title : Markup.IsShown [] table.title.toList
  headings : ∀ column ∈ table.columns, Markup.IsShown [] column.heading.toList
  cells : ∀ row ∈ table.rows, ∀ cell ∈ row, Markup.IsShown [] cell.toList

theorem Table.IsShown.exists_lines {table : Table} (h : table.IsShown) (terminal : Terminal) :
    ∃ lines, table.lines terminal = .ok lines := by
  obtain ⟨headings, hHeadings⟩ := exists_mapM_eq_ok fun column hColumn =>
    ⟨_, (h.headings column hColumn).plain terminal.emoji⟩
  obtain ⟨rows, hRows⟩ := exists_mapM_eq_ok fun row hRow =>
    exists_mapM_eq_ok fun cell hCell => ⟨_, (h.cells row hRow cell hCell).plain terminal.emoji⟩
  rw [Table.lines, h.title.plain]
  simp only [bind, Except.bind, hHeadings, hRows]
  exact ⟨_, rfl⟩

/-- A block all of whose messages are shown. -/
def Block.IsShown : Block → Prop
  | .message text => Markup.IsShown [] text.toList
  | .table grid => grid.IsShown

theorem Block.IsShown.exists_lines {block : Block} (h : block.IsShown) (terminal : Terminal) :
    ∃ lines, block.lines terminal = .ok lines := by
  cases block with
  | message text => exact ⟨_, by rw [Block.lines, Markup.IsShown.plain h]; rfl⟩
  | table grid => exact Table.IsShown.exists_lines h terminal

section Printed

variable [Limits]

/-- What is printed first, and what it all comes to, unless the channel refuses it. -/
theorem Printed.cons_of_prints {text : String} (h : Limits.prints text = true) (rest : Printed) :
    Printed.cons text rest = { rest with text := text ++ rest.text } :=
  if_pos h

theorem Printed.cons_of_not_prints {text : String} (h : Limits.prints text = false)
    (rest : Printed) : Printed.cons text rest = ⟨"", some .encoding⟩ :=
  if_neg (Bool.eq_false_iff.mp h)

/-- Texts are printed one after the other, up to the first that the channel refuses. -/
theorem printTexts_eq (texts : List String) :
    printTexts texts = ⟨String.join (texts.takeWhile Limits.prints),
      if texts.all Limits.prints then none else some .encoding⟩ := by
  induction texts with
  | nil => rfl
  | cons text texts ih =>
      rw [printTexts, List.takeWhile_cons, List.all_cons]
      cases hPrints : Limits.prints text with
      | false => exact Printed.cons_of_not_prints hPrints _
      | true =>
          rw [Printed.cons_of_prints hPrints, ih, Bool.true_and, if_pos rfl, String.join_cons]

/-- Lines in characters that the channel has codes for are printed. -/
theorem prints_joinLines {lines : List (List Char)}
    (h : ∀ line ∈ lines, ∀ c ∈ line, Limits.canPrint c = true) :
    Limits.prints (joinLines lines) = true := by
  rw [Limits.prints, joinLines, String.toList_ofList, List.all_eq_true]
  intro c hMem
  obtain ⟨line, hLine, hIn⟩ := List.mem_flatMap.mp hMem
  rcases List.mem_append.mp hIn with hText | hFeed
  · exact h line hLine c hText
  · exact List.mem_singleton.mp hFeed ▸ Limits.canPrint_newline

/-- A channel that has a code for every character refuses nothing. -/
theorem error?_print_ne (hPrints : ∀ text, Limits.prints text = true) (terminal : Terminal)
    (blocks : List Block) : (print terminal blocks).error? ≠ some .encoding := by
  induction blocks with
  | nil => nofun
  | cons block blocks ih =>
      rw [print]
      split
      · nofun
      · rw [Printed.cons_of_prints (hPrints _)]
        exact ih

/-- Blocks that are all shown are printed up to what the channel refuses. -/
theorem error?_print_of_isShown {blocks : List Block} (terminal : Terminal)
    (h : ∀ block ∈ blocks, block.IsShown) :
    (print terminal blocks).error? = none ∨ (print terminal blocks).error? = some .encoding := by
  induction blocks with
  | nil => exact .inl rfl
  | cons block blocks ih =>
      obtain ⟨hBlock, hBlocks⟩ := List.forall_mem_cons.mp h
      obtain ⟨lines, hLines⟩ := hBlock.exists_lines terminal
      rw [print, hLines]
      cases hPrints : Limits.prints (joinLines lines) with
      | false => exact .inr (congrArg Printed.error? (Printed.cons_of_not_prints hPrints _))
      | true =>
          dsimp only
          rw [Printed.cons_of_prints hPrints]
          exact ih hBlocks

end Printed

end Console

end PatchCoverage
