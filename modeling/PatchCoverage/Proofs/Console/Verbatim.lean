import Mathlib.Data.List.Flatten
import PatchCoverage.Proofs.Console.Emoji
import PatchCoverage.Proofs.Console.Markup
import PatchCoverage.Proofs.Text.Blank
import PatchCoverage.Proofs.Text.Width

namespace PatchCoverage.Console

/-!
# Texts that are shown as they are written

A message shows each of its items in a form of its own: a tag that opens or closes shows
nothing, a tag that is taken as text loses a backslash, and so does a bracket that has
one in front.  What the items show is cut into runs at the tags, and in each run codes
are replaced by emoji.  So a text in a message is shown as it is written exactly if no
bracket in it begins a tag or stands behind a backslash, no code in it names an emoji and
nothing in it but blanks is hidden.  `IsVerbatim` says so of a text.

The main statements are about the items of a message, `hasOnlyText_iff` and
`hasOnlyText_of_length_ink`: a text that loses a bracket or a backslash shows less ink
than it has, so that it can be told from what is shown whether it was verbatim.  A text
that loses a code shows fewer colons, `hasNoEmoji_of_count`.
-/

namespace Markup

/-! ## What items show -/

/-- An item as it is written. -/
def Item.written : Item → List Char
  | .character c => [c]
  | .bracket slashes => List.replicate slashes '\\' ++ ['[']
  | .tag slashes body => List.replicate slashes '\\' ++ '[' :: body ++ [']']

/-- What a text shows if its tags are right and its codes name no emoji. -/
def bareText (text : List Char) : List Char :=
  (items 0 text).flatMap Item.shown

section Items

variable {text body after rest : List Char}

theorem eq_of_takeToBracket? (h : takeToBracket? text = some (body, after)) :
    text = body ++ ']' :: after := by
  fun_induction takeToBracket? text generalizing body after with
  | case1 => cases h
  | case2 text =>
      obtain ⟨rfl, rfl⟩ := Prod.mk.inj (Option.some.inj h)
      rfl
  | case3 => cases h
  | case4 c text hClosing hOpening ih =>
      obtain ⟨⟨body', after'⟩, hFound, hSame⟩ := Option.map_eq_some_iff.mp h
      obtain ⟨rfl, rfl⟩ := Prod.mk.inj hSame
      rw [ih hFound, List.cons_append]

theorem eq_of_takeTag? (h : takeTag? text = some (body, after)) : text = body ++ ']' :: after := by
  unfold takeTag? at h
  split at h
  · cases h
  · next c text =>
    split at h
    · obtain ⟨⟨body', after'⟩, hFound, hSame⟩ := Option.map_eq_some_iff.mp h
      obtain ⟨rfl, rfl⟩ := Prod.mk.inj hSame
      rw [eq_of_takeToBracket? hFound, List.cons_append]
    · cases h

theorem flatMap_replicate_character (slashes : Nat) (part : Item → List Char)
    (h : part (.character '\\') = ['\\']) :
    (List.replicate slashes (Item.character '\\')).flatMap part = List.replicate slashes '\\' := by
  induction slashes with
  | zero => rfl
  | succ slashes ih => rw [List.replicate_succ, List.flatMap_cons, ih, h, List.replicate_succ]; rfl

/-- The items of a text are all of it. -/
theorem flatMap_written_items (slashes : Nat) (text : List Char) :
    (items slashes text).flatMap Item.written = List.replicate slashes '\\' ++ text := by
  fun_induction items slashes text with
  | case1 slashes => simpa using flatMap_replicate_character slashes Item.written rfl
  | case2 slashes rest ih =>
      rw [ih, List.replicate_succ', List.append_assoc, List.singleton_append]
  | case3 slashes rest body after hTag hSlash ih =>
      rw [List.flatMap_cons, ih, eq_of_takeTag? hTag]
      simp [Item.written]
  | case4 slashes rest hTag hSlash ih =>
      rw [List.flatMap_cons, ih]
      simp [Item.written]
  | case5 slashes c rest hSlash hBracket ih =>
      rw [List.flatMap_append, List.flatMap_cons, ih,
        flatMap_replicate_character slashes Item.written rfl]
      rfl

theorem plain_eq_ok {codes : EmojiCodes} {message : String} {shown : List Char}
    (h : plain codes message = .ok shown) :
    shown = (shownText codes message.toList).filter fun c => !isHidden c := by
  obtain ⟨_, -, h⟩ := bind_eq_ok_iff.mp h
  split at h
  · cases h
  · exact (Except.ok.inj h).symm

end Items

/-! ## Runs -/

/-- No code in a run of a text names an emoji. -/
def HasNoEmoji (codes : EmojiCodes) (text : List Char) : Prop :=
  ∀ run ∈ runs (items 0 text), codes.IsFree run

section Runs

variable {codes : EmojiCodes} {text : List Char}

theorem flatten_joinFirst (text : List Char) (found : List (List Char)) :
    (joinFirst text found).flatten = text ++ found.flatten := by
  cases found with
  | nil => rfl
  | cons run found => rw [joinFirst, List.flatten_cons, List.flatten_cons, List.append_assoc]

/-- The runs of items are all that the items show. -/
theorem flatten_runs (found : List Item) : (runs found).flatten = found.flatMap Item.shown := by
  induction found with
  | nil => rfl
  | cons item found ih =>
      cases item with
      | tag slashes body => rw [runs, List.flatten_cons, List.flatten_cons, ih]; rfl
      | character c => rw [runs, flatten_joinFirst, ih]; rfl; nofun
      | bracket slashes => rw [runs, flatten_joinFirst, ih]; rfl; nofun

theorem shownText_of_hasNoEmoji (h : HasNoEmoji codes text) :
    shownText codes text = bareText text := by
  rw [bareText, ← flatten_runs, shownText, ← List.flatMap_id]
  exact List.flatMap_congr fun run hRun => EmojiCodes.replace_eq_self_iff.mpr (h run hRun)

/-- Replacing codes in runs takes no colon in. -/
theorem count_flatMap_replace (found : List (List Char)) :
    (found.flatMap codes.replace).count ':' ≤ found.flatten.count ':' ∧
      (found.flatten.count ':' ≤ (found.flatMap codes.replace).count ':' →
        ∀ run ∈ found, codes.IsFree run) := by
  induction found with
  | nil => exact ⟨Nat.le_refl _, fun _ => List.forall_mem_nil _⟩
  | cons run found ih =>
      obtain ⟨hFewer, hAll⟩ := ih
      have hRun := EmojiCodes.count_replace_le codes run
      rw [List.flatMap_cons, List.flatten_cons, List.count_append, List.count_append]
      refine ⟨Nat.add_le_add hRun hFewer, fun hCount => List.forall_mem_cons.mpr ⟨?_, hAll ?_⟩⟩
      · exact EmojiCodes.isFree_of_count (by omega)
      · omega

theorem count_shownText_le (codes : EmojiCodes) (text : List Char) :
    (shownText codes text).count ':' ≤ (bareText text).count ':' := by
  rw [bareText, ← flatten_runs]
  exact (count_flatMap_replace _).1

/-- A text that keeps its colons has no code of an emoji. -/
theorem hasNoEmoji_of_count
    (h : (bareText text).count ':' ≤ (shownText codes text).count ':') :
    HasNoEmoji codes text := by
  rw [bareText, ← flatten_runs] at h
  exact (count_flatMap_replace _).2 h

end Runs

/-! ## Verbatim items -/

/-- An item that is shown as it is written. -/
def Item.IsVerbatim : Item → Prop
  | .character _ => True
  | .bracket slashes => slashes = 0
  | .tag _ _ => False

section Verbatim

variable {item : Item} {found : List Item}

theorem Item.IsVerbatim.shown_eq_written (h : item.IsVerbatim) : item.shown = item.written := by
  cases item with
  | character c => rfl
  | bracket slashes => rw [show slashes = 0 from h]; rfl
  | tag slashes body => exact h.elim

theorem Item.IsVerbatim.isText (h : item.IsVerbatim) : item.IsText := by
  cases item with
  | character c => trivial
  | bracket slashes => trivial
  | tag slashes body => exact h.elim

theorem Item.shown_sublist_written (item : Item) : item.shown.Sublist item.written := by
  have hFewer {few many : Nat} (h : few ≤ many) :
      (List.replicate few '\\').Sublist (List.replicate many '\\') :=
    (List.replicate_sublist_replicate _).mpr h
  cases item with
  | character c => exact List.Sublist.refl _
  | bracket slashes => exact (hFewer (Nat.sub_le ..)).append (List.Sublist.refl _)
  | tag slashes body =>
      rw [shown, written, List.append_assoc]
      refine (hFewer (Nat.div_le_self ..)).append ?_
      split
      · exact List.Sublist.refl _
      · exact List.nil_sublist _

theorem ink_replicate_of_not_isBlank {c : Char} (h : isBlank c = false) (count : Nat) :
    ink (List.replicate count c) = List.replicate count c := by
  rw [ink, List.filter_replicate, h]
  rfl

/-- What an item loses is no blank. -/
theorem Item.isVerbatim_of_length_ink
    (h : (ink item.written).length ≤ (ink item.shown).length) : item.IsVerbatim := by
  have hSlash (count : Nat) : (ink (List.replicate count '\\')).length = count := by
    rw [ink_replicate_of_not_isBlank (by decide), List.length_replicate]
  have hOpening (text : List Char) : ink ('[' :: text) = '[' :: ink text :=
    ink_cons_of_not_isBlank (by decide)
  have hClosing : ink [']'] = [']'] := ink_cons_of_not_isBlank (by decide)
  cases item with
  | character c => trivial
  | bracket slashes =>
      simp only [written, shown, ink_append, hOpening, List.length_append, hSlash] at h
      change slashes = 0
      omega
  | tag slashes body =>
      exfalso
      simp only [written, shown, List.append_assoc, List.cons_append, ink_append, hOpening,
        hClosing, List.length_append, List.length_cons, hSlash] at h
      split at h
      · simp only [ink_append, hOpening, hClosing, List.length_append, List.length_cons] at h
        omega
      · simp only [ink, List.filter_nil, List.length_nil] at h
        omega

/-- Items that lose nothing together lose nothing each. -/
theorem isVerbatim_of_length_ink_flatMap
    (h : (ink (found.flatMap Item.written)).length ≤ (ink (found.flatMap Item.shown)).length) :
    ∀ item ∈ found, item.IsVerbatim := by
  induction found with
  | nil => exact List.forall_mem_nil _
  | cons item found ih =>
      -- No item shows more than is written for it, so none makes up for the loss of another.
      have hItem := (item.shown_sublist_written.filter fun c => !isBlank c).length_le
      have hFound : (found.flatMap Item.shown).Sublist (found.flatMap Item.written) :=
        List.Sublist.flatMap_right found fun item _ => item.shown_sublist_written
      have hOthers := (hFound.filter fun c => !isBlank c).length_le
      simp only [List.flatMap_cons, ink_append, List.length_append] at h
      change (ink _).length ≤ (ink _).length at hItem hOthers
      exact List.forall_mem_cons.mpr
        ⟨Item.isVerbatim_of_length_ink (by omega), ih (by omega)⟩

theorem flatMap_shown_of_isVerbatim (h : ∀ item ∈ found, item.IsVerbatim) :
    found.flatMap Item.shown = found.flatMap Item.written :=
  List.flatMap_congr fun item hItem => (h item hItem).shown_eq_written

end Verbatim

/-! ## Verbatim texts -/

/-- No bracket in a text begins a tag or stands behind a backslash. -/
def HasOnlyText (text : List Char) : Prop :=
  ∀ front rest, text = front ++ '[' :: rest →
    takeTag? rest = none ∧ front.getLast? ≠ some '\\'

/-- A text that is shown as it is written: no bracket in it begins a tag or stands behind
a backslash, no code in it names an emoji, and what is hidden in it is blank, so that it
has no bell and no backspace. -/
structure IsVerbatim (codes : EmojiCodes) (text : List Char) : Prop where
  onlyText : HasOnlyText text
  codes : codes.IsFree text
  hidden : ∀ c ∈ text, isHidden c = true → isBlank c = true

/-- Behind a character that is no backslash, a bracket stands as it stands in the rest. -/
theorem getLast?_append_cons_ne_iff {c : Char} (hSlash : c ≠ '\\') (front rest : List Char) :
    (front ++ c :: rest).getLast? ≠ some '\\' ↔ rest.getLast? ≠ some '\\' := by
  cases rest using List.reverseRecOn with
  | nil => simpa using hSlash
  | append_singleton rest last =>
      rw [← List.cons_append, ← List.append_assoc, List.getLast?_concat, List.getLast?_concat]

/-- Of a text that has its first bracket behind some characters, the first bracket and
the rest count. -/
theorem hasOnlyText_append_cons_iff {c : Char} {front rest : List Char} (hSlash : c ≠ '\\')
    (hFront : '[' ∉ front) :
    HasOnlyText (front ++ c :: rest) ↔
      (c = '[' → takeTag? rest = none ∧ front.getLast? ≠ some '\\') ∧ HasOnlyText rest := by
  constructor
  · intro h
    refine ⟨fun hBracket => h front rest (by rw [hBracket]), ?_⟩
    rintro before after rfl
    obtain ⟨hTag, hLast⟩ := h (front ++ c :: before) after (by simp)
    exact ⟨hTag, (getLast?_append_cons_ne_iff hSlash front before).mp hLast⟩
  · rintro ⟨hFirst, hRest⟩ before after hText
    rcases List.append_eq_append_iff.mp hText with ⟨between, rfl, hBehind⟩ | ⟨between, rfl, hBehind⟩
    · cases between with
      | nil =>
          obtain ⟨rfl, rfl⟩ := List.cons.inj hBehind
          simpa using hFirst rfl
      | cons first between =>
          obtain ⟨rfl, hAfter⟩ := List.cons.inj hBehind
          obtain ⟨hTag, hLast⟩ := hRest between after hAfter
          exact ⟨hTag, (getLast?_append_cons_ne_iff hSlash front between).mpr hLast⟩
    · cases between with
      | nil =>
          obtain ⟨rfl, rfl⟩ := List.cons.inj hBehind
          simpa using hFirst rfl
      | cons first between =>
          obtain ⟨rfl, -⟩ := List.cons.inj hBehind
          exact absurd (by simp) hFront

/-- The brackets of a text decide what its items are. -/
theorem hasOnlyText_iff (slashes : Nat) (text : List Char) :
    HasOnlyText (List.replicate slashes '\\' ++ text) ↔
      ∀ item ∈ items slashes text, item.IsVerbatim := by
  -- The backslashes just read belong to the text: they tell what a bracket behind them is.
  have hNoBracket (slashes : Nat) : '[' ∉ List.replicate slashes '\\' := by simp
  have hCharacters (slashes : Nat) :
      ∀ item ∈ List.replicate slashes (Item.character '\\'), item.IsVerbatim := by
    intro item hItem
    rw [List.eq_of_mem_replicate hItem]
    trivial
  fun_induction items slashes text with
  | case1 slashes =>
      refine iff_of_true ?_ (hCharacters slashes)
      intro front rest hText
      refine absurd ?_ (hNoBracket slashes)
      rw [← List.append_nil (List.replicate slashes _), hText]
      simp
  | case2 slashes rest ih =>
      have hText : List.replicate slashes '\\' ++ '\\' :: rest =
          List.replicate (slashes + 1) '\\' ++ rest := by simp [List.replicate_succ']
      rw [hText]
      exact ih
  | case3 slashes rest body after hTag hSlash ih =>
      refine iff_of_false ?_ ?_
      · intro h
        rw [(h _ rest rfl).1] at hTag
        cases hTag
      · exact fun h => (List.forall_mem_cons.mp h).1
  | case4 slashes rest hTag hSlash ih =>
      rw [hasOnlyText_append_cons_iff (by decide) (hNoBracket slashes), List.forall_mem_cons]
      refine and_congr ?_ ih
      change _ ↔ slashes = 0
      cases slashes with
      | zero => simpa using hTag
      | succ slashes => simp [List.replicate_succ']
  | case5 slashes c rest hSlash hBracket ih =>
      rw [hasOnlyText_append_cons_iff hSlash (hNoBracket slashes), List.forall_mem_append,
        List.forall_mem_cons]
      refine and_congr (iff_of_true (fun hSame => absurd hSame hBracket) (hCharacters slashes)) ?_
      exact ih.trans (and_iff_right trivial).symm

theorem IsPlain.hasOnlyText {text : List Char} (h : IsPlain text) : HasOnlyText text := by
  rintro before after rfl
  exact absurd rfl (h '[' (by simp)).2

theorem IsPlain.getLast?_ne {text : List Char} (h : IsPlain text) : text.getLast? ≠ some '\\' :=
  fun hLast => absurd rfl (h '\\' (List.mem_of_getLast? hLast)).1

/-! ## Ordinary texts -/

/-- The characters that are not shown as they are written wherever they stand, or that
change the width of others. -/
def specialCharacters : List Char :=
  ['[', ']', '\\', '\u200d', pictureMark, '\x07', '\x08', '\x0b', '\x0c', '\r']

/-- Any other character. -/
def isOrdinary (c : Char) : Bool :=
  !specialCharacters.contains c

/-- A text of such characters. -/
def IsOrdinary (text : List Char) : Prop :=
  ∀ c ∈ text, isOrdinary c = true

instance : DecidablePred IsOrdinary :=
  fun text => List.decidableBAll (fun c => isOrdinary c = true) text

namespace IsOrdinary

variable {first second text : List Char}

theorem append (hFirst : IsOrdinary first) (hSecond : IsOrdinary second) :
    IsOrdinary (first ++ second) :=
  List.forall_mem_append.mpr ⟨hFirst, hSecond⟩

theorem not_mem (h : IsOrdinary text) {c : Char} (hSpecial : isOrdinary c = false) : c ∉ text :=
  fun hMem => Bool.false_ne_true (hSpecial.symm.trans (h c hMem))

theorem isPlain (h : IsOrdinary text) : IsPlain text :=
  fun _ hMem => ⟨fun hSlash => h.not_mem (by decide) (hSlash ▸ hMem),
    fun hBracket => h.not_mem (by decide) (hBracket ▸ hMem)⟩

theorem isUnmarked (h : IsOrdinary text) : IsUnmarked text :=
  ⟨h.not_mem (by decide), h.not_mem (by decide)⟩

theorem not_isHidden (h : IsOrdinary text) : ∀ c ∈ text, isHidden c = false := by
  intro c hMem
  rw [← Bool.not_eq_true]
  intro hHidden
  refine h.not_mem ?_ hMem
  simp only [isHidden, Bool.or_eq_true, beq_iff_eq] at hHidden
  rcases hHidden with (((rfl | rfl) | rfl) | rfl) | rfl
  all_goals decide

theorem isVerbatim (h : IsOrdinary text) (hNames : EmojiCodes.names text = [])
    (codes : EmojiCodes) : IsVerbatim codes text where
  onlyText := h.isPlain.hasOnlyText
  codes := EmojiCodes.isFree_of_names_eq_nil hNames
  hidden c hMem hHidden := absurd hHidden (Bool.eq_false_iff.mp (h.not_isHidden c hMem))

theorem of_isNumeral (h : IsNumeral text) : IsOrdinary text := by
  have hAll : (specialCharacters.all fun c => !isNumeral c) = true := by decide
  have hSpecial : ∀ c ∈ specialCharacters, isNumeral c = false := by simpa using hAll
  intro c hMem
  rw [isOrdinary, Bool.not_eq_true', ← Bool.not_eq_true, List.contains_iff_mem]
  exact fun hIn => Bool.false_ne_true ((hSpecial c hIn).symm.trans (h c hMem))

end IsOrdinary

section Shown

variable {text front body rest : List Char}

theorem bareText_of_hasOnlyText (h : HasOnlyText text) : bareText text = text := by
  have hItems := flatMap_shown_of_isVerbatim ((hasOnlyText_iff 0 text).mp h)
  rw [bareText, hItems, flatMap_written_items]
  rfl

theorem bareText_sublist (text : List Char) : (bareText text).Sublist text := by
  have hItems : (bareText text).Sublist ((items 0 text).flatMap Item.written) :=
    List.Sublist.flatMap_right _ fun item _ => item.shown_sublist_written
  rwa [flatMap_written_items] at hItems

/-- A text that loses nothing but blanks has only text. -/
theorem hasOnlyText_of_length_ink (h : (ink text).length ≤ (ink (bareText text)).length) :
    HasOnlyText text := by
  refine (hasOnlyText_iff 0 text).mpr (isVerbatim_of_length_ink_flatMap ?_)
  rwa [flatMap_written_items]

theorem bareText_plain_append (hFront : IsPlain front) :
    bareText (front ++ rest) = front ++ bareText rest := by
  have hCharacters : (front.map Item.character).flatMap Item.shown = front := by
    rw [List.flatMap_map]
    exact List.flatMap_singleton' front
  rw [bareText, items_plain_append hFront, List.flatMap_append, hCharacters, ← bareText]

/-- A tag that opens or closes shows nothing. -/
theorem bareText_tag (hTag : takeTag? (body ++ [']']) = some (body, [])) :
    bareText ('[' :: (body ++ ']' :: rest)) = bareText rest := by
  rw [bareText, items_of_takeTag? (takeTag?_append hTag), List.flatMap_cons, ← bareText]
  rfl

/-- Where no bracket closes, none does before a further bracket. -/
theorem takeToBracket?_append_bracket (h : takeToBracket? text = none) :
    takeToBracket? (text ++ '[' :: rest) = none := by
  fun_induction takeToBracket? text with
  | case1 => rfl
  | case2 => cases h
  | case3 => rfl
  | case4 c text hClosing hOpening ih =>
      rw [List.cons_append, takeToBracket?, ih (Option.map_eq_none_iff.mp h)]
      · rfl
      · exact hClosing
      · exact hOpening

theorem takeTag?_append_bracket (h : takeTag? text = none) :
    takeTag? (text ++ '[' :: rest) = none := by
  cases text with
  | nil => rfl
  | cons c text =>
      rw [List.cons_append, takeTag?]
      rw [takeTag?] at h
      split
      · next hBegins =>
        rw [if_pos hBegins] at h
        rw [takeToBracket?_append_bracket (Option.map_eq_none_iff.mp h)]
        rfl
      · rfl

/-- A bracket behind a text changes nothing in it, unless the text ends in a
backslash. -/
theorem items_append_bracket (slashes : Nat)
    (h : (List.replicate slashes '\\' ++ text).getLast? ≠ some '\\') :
    items slashes (text ++ '[' :: rest) = items slashes text ++ items 0 ('[' :: rest) := by
  fun_induction items slashes text with
  | case1 slashes =>
      cases slashes with
      | zero =>
          rw [List.replicate_zero]
          rfl
      | succ slashes => simp [List.replicate_succ'] at h
  | case2 slashes rest ih =>
      rw [List.cons_append, items_backslash]
      refine ih ?_
      rwa [List.replicate_succ', List.append_assoc, List.singleton_append]
  | case3 slashes rest body after hTag hSlash ih =>
      have hRest := eq_of_takeTag? hTag
      have hBehind := (getLast?_append_cons_ne_iff (by decide) _ _).mp h
      rw [hRest, getLast?_append_cons_ne_iff (by decide)] at hBehind
      rw [hRest, List.cons_append, List.append_assoc, List.cons_append,
        items_of_takeTag? (takeTag?_append hTag), ih hBehind, List.cons_append]
  | case4 slashes rest hTag hSlash ih =>
      rw [List.cons_append, items_of_takeTag?_eq_none (takeTag?_append_bracket hTag),
        List.cons_append]
      exact congrArg _ (ih ((getLast?_append_cons_ne_iff (by decide) _ _).mp h))
  | case5 slashes c rest hSlash hBracket ih =>
      rw [List.cons_append, items_of_ne hSlash hBracket,
        ih ((getLast?_append_cons_ne_iff hSlash _ _).mp h), List.append_assoc, List.cons_append]

theorem bareText_append_bracket (h : text.getLast? ≠ some '\\') :
    bareText (text ++ '[' :: rest) = bareText text ++ bareText ('[' :: rest) := by
  rw [bareText, items_append_bracket 0 (by simpa using h), List.flatMap_append]
  rfl

/-- A text that has only text may stand in front of what is shown. -/
theorem IsShown.text_append {opened : List OpenTag} (hText : HasOnlyText text)
    (hItems : items 0 (text ++ rest) = items 0 text ++ items 0 rest) (h : IsShown opened rest) :
    IsShown opened (text ++ rest) := by
  obtain ⟨hTags, hColours⟩ := h
  have hItemsText : ∀ item ∈ items 0 text, item.IsText := fun item hItem =>
    ((hasOnlyText_iff 0 text).mp hText item hItem).isText
  rw [IsShown, hItems, checkTags_append hItemsText]
  refine ⟨hTags, List.forall_mem_append.mpr ⟨fun item hItem => ?_, hColours⟩⟩
  exact (hItemsText item hItem).paintsUnreadable_eq_false

/-- A text in a style, with what is shown behind it. -/
theorem IsShown.styled_text {style : String} (hStyle : IsStyle style) (hText : HasOnlyText text)
    (hEnd : text.getLast? ≠ some '\\') (h : IsShown [] rest) :
    IsShown [] ('[' :: (style.toList ++ ']' ::
      (text ++ '[' :: ('/' :: style.toList ++ ']' :: rest)))) := by
  obtain ⟨opened, hOpens, hCloses⟩ := hStyle.exists_opened
  obtain ⟨hOpening, hClosing⟩ := hStyle.paintsUnreadable_eq_false
  have hClosed : IsShown opened ('[' :: ('/' :: style.toList ++ ']' :: rest)) :=
    IsShown.tag hStyle.closing hCloses hClosing h
  exact IsShown.tag hStyle.opening hOpens hOpening
    (IsShown.text_append hText (items_append_bracket 0 (by simpa using hEnd)) hClosed)

theorem bareText_styled {style : String} (hStyle : IsStyle style)
    (hEnd : text.getLast? ≠ some '\\') (rest : List Char) :
    bareText ('[' :: (style.toList ++ ']' ::
      (text ++ '[' :: ('/' :: style.toList ++ ']' :: rest)))) =
      bareText text ++ bareText rest := by
  rw [bareText_tag hStyle.opening, bareText_append_bracket hEnd, bareText_tag hStyle.closing]

theorem bareText_nil : bareText [] = [] :=
  bareText_of_hasOnlyText fun front rest h => by simp at h

theorem isShown_of_hasOnlyText (h : HasOnlyText text) : IsShown [] text := by
  have hItems : items 0 (text ++ []) = items 0 text ++ items 0 [] := by
    rw [List.append_nil, items]
    simp
  simpa using IsShown.text_append h hItems (isShown_nil [])

/-! ### Runs of messages -/

theorem joinFirst_joinFirst (front text : List Char) (found : List (List Char)) :
    joinFirst front (joinFirst text found) = joinFirst (front ++ text) found := by
  cases found with
  | nil => rfl
  | cons run found => exact congrArg (· :: found) (List.append_assoc ..).symm

theorem runs_ne_nil {found : List Item} (h : found ≠ []) : runs found ≠ [] := by
  cases found with
  | nil => exact absurd rfl h
  | cons item found =>
      cases item <;> cases hRuns : runs found <;> simp [runs, joinFirst, hRuns]

/-- Verbatim items belong to the first run of what follows them. -/
theorem runs_append {found more : List Item} (h : ∀ item ∈ found, item.IsVerbatim)
    (hMore : more ≠ []) :
    runs (found ++ more) = joinFirst (found.flatMap Item.shown) (runs more) := by
  induction found with
  | nil =>
      cases hRuns : runs more with
      | nil => exact absurd hRuns (runs_ne_nil hMore)
      | cons run others => rw [List.nil_append, hRuns]; rfl
  | cons item found ih =>
      obtain ⟨hItem, hFound⟩ := List.forall_mem_cons.mp h
      rw [List.cons_append, List.flatMap_cons, ← joinFirst_joinFirst, ← ih hFound]
      cases item with
      | character c => rfl
      | bracket slashes => rfl
      | tag slashes body => exact hItem.elim

section HasNoEmoji

variable {codes : EmojiCodes}

/-- A text that has only text is a run. -/
theorem hasNoEmoji_iff (h : HasOnlyText text) : HasNoEmoji codes text ↔ codes.IsFree text := by
  have hVerbatim := (hasOnlyText_iff 0 text).mp h
  have hShown : (items 0 text).flatMap Item.shown = text := bareText_of_hasOnlyText h
  rw [HasNoEmoji]
  -- From the end: the last item is a run, and all that stand before it join it.
  cases hItems : items 0 text using List.reverseRecOn with
  | nil =>
      rw [hItems] at hShown
      rw [← hShown]
      exact iff_of_true (List.forall_mem_nil _) (EmojiCodes.isFree_of_not_mem List.not_mem_nil)
  | append_singleton front last =>
      rw [hItems] at hVerbatim hShown
      obtain ⟨hFront, hLast⟩ := List.forall_mem_append.mp hVerbatim
      have hRun : runs [last] = [last.shown] := by
        cases last with
        | character c => rfl
        | bracket slashes => rfl
        | tag slashes body => exact (List.forall_mem_singleton.mp hLast).elim
      have hText : front.flatMap Item.shown ++ last.shown = text := by
        simpa using hShown
      rw [runs_append hFront (by simp), hRun, joinFirst, hText, List.forall_mem_singleton]

theorem hasNoEmoji_nil : HasNoEmoji codes [] :=
  (hasNoEmoji_iff (IsPlain.hasOnlyText (List.forall_mem_nil _))).mpr
    (EmojiCodes.isFree_of_not_mem List.not_mem_nil)

/-- A tag ends a run and shows nothing. -/
theorem hasNoEmoji_tag_iff (hTag : takeTag? (body ++ [']']) = some (body, [])) :
    HasNoEmoji codes ('[' :: (body ++ ']' :: rest)) ↔ HasNoEmoji codes rest := by
  have hEmpty : codes.IsFree [] := EmojiCodes.isFree_of_not_mem List.not_mem_nil
  rw [HasNoEmoji, items_of_takeTag? (takeTag?_append hTag), runs, List.forall_mem_cons,
    List.forall_mem_cons]
  exact (and_iff_right hEmpty).trans (and_iff_right hEmpty)

/-- A text between tags is a run. -/
theorem hasNoEmoji_append_tag_iff (hText : HasOnlyText text) (hEnd : text.getLast? ≠ some '\\')
    (hTag : takeTag? (body ++ [']']) = some (body, [])) :
    HasNoEmoji codes (text ++ '[' :: (body ++ ']' :: rest)) ↔
      codes.IsFree text ∧ HasNoEmoji codes rest := by
  have hItems : items 0 (text ++ '[' :: (body ++ ']' :: rest)) =
      items 0 text ++ items 0 ('[' :: (body ++ ']' :: rest)) :=
    items_append_bracket 0 (by simpa using hEnd)
  have hBehind : items 0 ('[' :: (body ++ ']' :: rest)) = .tag 0 body :: items 0 rest :=
    items_of_takeTag? (takeTag?_append hTag)
  have hShown : (items 0 text).flatMap Item.shown = text := bareText_of_hasOnlyText hText
  have hTagRuns : HasNoEmoji codes ('[' :: (body ++ ']' :: rest)) ↔ HasNoEmoji codes rest :=
    hasNoEmoji_tag_iff hTag
  rw [HasNoEmoji, hItems, runs_append ((hasOnlyText_iff 0 text).mp hText) (by simp [hBehind]),
    hShown]
  rw [HasNoEmoji, hBehind, runs, List.forall_mem_cons] at hTagRuns
  rw [hBehind, runs, joinFirst, List.append_nil, List.forall_mem_cons, ← hTagRuns]
  exact and_congr_right fun _ =>
    (and_iff_right (EmojiCodes.isFree_of_not_mem List.not_mem_nil)).symm

/-- A plain text without colons in front makes no code. -/
theorem hasNoEmoji_plain_append_iff (hFront : IsPlain front) (hColon : ':' ∉ front) :
    HasNoEmoji codes (front ++ rest) ↔ HasNoEmoji codes rest := by
  have hClosed := EmojiCodes.isClosed_of_not_mem hColon
  by_cases hRest : items 0 rest = []
  · have hNil : rest = [] := by simpa [hRest] using (flatMap_written_items 0 rest).symm
    rw [hNil, List.append_nil, hasNoEmoji_iff hFront.hasOnlyText]
    exact iff_of_true (EmojiCodes.isFree_of_not_mem hColon) hasNoEmoji_nil
  · have hVerbatim : ∀ item ∈ front.map Item.character, item.IsVerbatim :=
      List.forall_mem_map.mpr fun _ _ => trivial
    have hShown : (front.map Item.character).flatMap Item.shown = front := by
      rw [List.flatMap_map]
      exact List.flatMap_singleton' front
    rw [HasNoEmoji, items_plain_append hFront, runs_append hVerbatim hRest, hShown, HasNoEmoji]
    cases hRuns : runs (items 0 rest) with
    | nil => exact absurd hRuns (runs_ne_nil hRest)
    | cons run others =>
        rw [joinFirst, List.forall_mem_cons, List.forall_mem_cons, EmojiCodes.IsFree,
          hClosed.names_append, ← EmojiCodes.IsFree]

end HasNoEmoji

/-! ### Texts inside other texts -/

/-- Without a closing bracket behind a text, nothing behind it closes a tag. -/
theorem takeToBracket?_append_eq_none_iff (hRest : ']' ∉ rest) :
    takeToBracket? (text ++ rest) = none ↔ takeToBracket? text = none := by
  have hNone (rest : List Char) (h : ']' ∉ rest) : takeToBracket? rest = none := by
    fun_induction takeToBracket? rest with
    | case1 => rfl
    | case2 => exact absurd List.mem_cons_self h
    | case3 => rfl
    | case4 c rest hClosing hOpening ih =>
        rw [ih fun hMem => h (List.mem_cons_of_mem c hMem)]
        rfl
  fun_induction takeToBracket? text with
  | case1 => exact iff_of_true (hNone rest hRest) rfl
  | case2 text => simp [takeToBracket?]
  | case3 text => exact iff_of_true rfl rfl
  | case4 c text hClosing hOpening ih =>
      rw [List.cons_append, takeToBracket?, Option.map_eq_none_iff, Option.map_eq_none_iff]
      · exact ih
      · exact hClosing
      · exact hOpening

theorem takeTag?_append_eq_none_iff (hRest : ']' ∉ rest) :
    takeTag? (text ++ rest) = none ↔ takeTag? text = none := by
  cases text with
  | nil =>
      refine iff_of_true ?_ rfl
      cases rest with
      | nil => rfl
      | cons c rest =>
          have hNone : takeToBracket? ([] ++ rest) = none :=
            (takeToBracket?_append_eq_none_iff fun hMem =>
              hRest (List.mem_cons_of_mem c hMem)).mpr rfl
          rw [List.nil_append] at hNone
          rw [List.nil_append, takeTag?, hNone]
          exact ite_self _
  | cons c text =>
      rw [List.cons_append, takeTag?, takeTag?]
      split
      · rw [Option.map_eq_none_iff, Option.map_eq_none_iff, takeToBracket?_append_eq_none_iff hRest]
      · exact Iff.rfl

theorem hasOnlyText_append_iff (hOpening : '[' ∉ rest) (hClosing : ']' ∉ rest) :
    HasOnlyText (text ++ rest) ↔ HasOnlyText text := by
  constructor
  · rintro h before after rfl
    obtain ⟨hTag, hLast⟩ := h before (after ++ rest) (by simp)
    exact ⟨(takeTag?_append_eq_none_iff hClosing).mp hTag, hLast⟩
  · intro h before after hText
    rcases List.append_eq_append_iff.mp hText with ⟨between, rfl, rfl⟩ | ⟨between, rfl, hBehind⟩
    · exact absurd (by simp) hOpening
    · cases between with
      | nil =>
          refine absurd ?_ hOpening
          rw [← List.nil_append rest, ← hBehind]
          exact List.mem_cons_self
      | cons first between =>
          obtain ⟨rfl, rfl⟩ := List.cons.inj hBehind
          obtain ⟨hTag, hLast⟩ := h before between rfl
          exact ⟨(takeTag?_append_eq_none_iff hClosing).mpr hTag, hLast⟩

theorem hasOnlyText_plain_append_iff (hFront : IsPlain front) :
    HasOnlyText (front ++ text) ↔ HasOnlyText text := by
  induction front with
  | nil => exact Iff.rfl
  | cons c front ih =>
      obtain ⟨⟨hSlash, hBracket⟩, hOthers⟩ := List.forall_mem_cons.mp hFront
      have hFirst : HasOnlyText ([] ++ c :: (front ++ text)) ↔ _ :=
        hasOnlyText_append_cons_iff hSlash List.not_mem_nil
      rw [List.nil_append] at hFirst
      rw [List.cons_append, hFirst, ih hOthers]
      exact and_iff_right fun hSame => absurd hSame hBracket

/-- A text between ordinary texts that reach into no code of it decides whether all of it
is verbatim. -/
theorem isVerbatim_enclosed_iff {codes : EmojiCodes} (hFront : IsOrdinary front)
    (hRest : IsOrdinary rest) (hClosed : EmojiCodes.IsClosed front) (hColon : ':' ∉ rest) :
    IsVerbatim codes (front ++ text ++ rest) ↔ IsVerbatim codes text := by
  have hText : HasOnlyText (front ++ text ++ rest) ↔ HasOnlyText text := by
    rw [hasOnlyText_append_iff (hRest.not_mem (by decide)) (hRest.not_mem (by decide)),
      hasOnlyText_plain_append_iff hFront.isPlain]
  have hCodes : codes.IsFree (front ++ text ++ rest) ↔ codes.IsFree text := by
    rw [EmojiCodes.IsFree, EmojiCodes.names_enclosed hClosed hColon, EmojiCodes.IsFree]
  constructor
  · exact fun h => ⟨hText.mp h.onlyText, hCodes.mp h.codes, fun c hMem =>
      h.hidden c (by simp [hMem])⟩
  · refine fun h => ⟨hText.mpr h.onlyText, hCodes.mpr h.codes, fun c hMem hHidden => ?_⟩
    simp only [List.mem_append] at hMem
    rcases hMem with (hIn | hIn) | hIn
    · exact absurd hHidden (Bool.eq_false_iff.mp (hFront.not_isHidden c hIn))
    · exact h.hidden c hIn hHidden
    · exact absurd hHidden (Bool.eq_false_iff.mp (hRest.not_isHidden c hIn))

/-! ### Messages part by part -/

theorem checkTags_items_tag {opened : List OpenTag}
    (hTag : takeTag? (body ++ [']']) = some (body, [])) (rest : List Char) :
    checkTags opened (items 0 ('[' :: (body ++ ']' :: rest))) =
      applyTag opened body >>= fun opened => checkTags opened (items 0 rest) := by
  rw [items_of_takeTag? (takeTag?_append hTag)]
  rfl

/-- A message that shows no colon shows the same whatever emoji there are. -/
theorem plain_of_bareText {message : String} (h : IsShown [] message.toList)
    (hText : bareText message.toList = text) (hColon : ':' ∉ text)
    (hHidden : ∀ c ∈ text, isHidden c = false) (codes : EmojiCodes) :
    plain codes message = .ok text := by
  have hCodes : HasNoEmoji codes message.toList := by
    refine hasNoEmoji_of_count ?_
    rw [hText, List.count_eq_zero.mpr hColon]
    exact Nat.zero_le _
  rw [h.plain, shownText_of_hasNoEmoji hCodes, hText, List.filter_eq_self.mpr]
  simpa using hHidden

theorem plain_eq_error {message : String} {error : MarkupError}
    (h : checkTags [] (items 0 message.toList) = .error error) (codes : EmojiCodes) :
    plain codes message = .error error := by
  rw [plain, h]
  rfl

end Shown

end Markup

end PatchCoverage.Console
