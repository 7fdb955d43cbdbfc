import Mathlib.Data.List.Flatten
import PatchCoverage.Proofs.Config.Expansion
import PatchCoverage.Proofs.Config.SinglePass

namespace PatchCoverage.Yaml.Value

/-!
# Which texts of a document are expanded

A text stands at a place of the document, and places are in the order of the document if
they are compared from the top.  `placedTexts` lists the texts of a value with their
places, in that order.

Expansion looks into mappings, but not into the items of a list: a text is expanded if it
is an item itself, and is passed over if it stands deeper.  The main statement is
`every_text_expanded_iff`: every text of a document is expanded, with all warnings, exactly
if expanding would make no difference to the texts that are passed over.  So a document is
expanded in full in every environment exactly if no placeholder is written inside an item of
a list.
-/

/-! ## Values from their children -/

/-- The values that stand directly below a value. -/
def children : Value → List Value
  | mapping entries => entries.map Prod.snd
  | sequence items => items
  | _ => []

theorem child?_eq_getElem?_children (index : Nat) (value : Value) :
    value.child? index = value.children[index]? := by
  cases value with
  | mapping entries => rw [child?, children, List.getElem?_map]
  | sequence items => rfl
  | _ => rfl

theorem sizeOf_lt_of_mem_children {child value : Value} (h : child ∈ value.children) :
    sizeOf child < sizeOf value := by
  cases value with
  | mapping entries =>
      obtain ⟨⟨key, _⟩, hMem, rfl⟩ := List.mem_map.mp h
      have hEntry := List.sizeOf_lt_of_mem hMem
      simp only [Prod.mk.sizeOf_spec, mapping.sizeOf_spec] at hEntry ⊢
      omega
  | sequence items =>
      have hItem : sizeOf child < sizeOf items := List.sizeOf_lt_of_mem h
      simp only [sequence.sizeOf_spec]
      omega
  | _ => cases h

/-- What holds of a value if it holds of its children holds of every value. -/
theorem induction_on_children {motive : Value → Prop}
    (step : ∀ value, (∀ child ∈ value.children, motive child) → motive value) (value : Value) :
    motive value :=
  step value fun child _ => induction_on_children step child
termination_by sizeOf value
decreasing_by exact sizeOf_lt_of_mem_children ‹_›

/-! ## Texts in the order of the document -/

/-- A text and the place where it stands. -/
structure PlacedText where
  /-- The place. -/
  place : List Nat
  /-- The text. -/
  text : String
  deriving DecidableEq

/-- A text of a child as a text of the value above. -/
def PlacedText.below (index : Nat) (placed : PlacedText) : PlacedText :=
  { placed with place := index :: placed.place }

theorem PlacedText.below_injective (index : Nat) : (PlacedText.below index).Injective := by
  rintro ⟨place, text⟩ ⟨other, more⟩ hSame
  simpa [below] using hSame

mutual

/-- The texts of a value with their places, in the order of the document. -/
def placedTexts : Value → List PlacedText
  | string text => [⟨[], text⟩]
  | mapping entries => placedEntryTexts 0 entries
  | sequence items => placedItemTexts 0 items
  | _ => []

/-- The texts of the values of entries, the first of which has the given number. -/
def placedEntryTexts (index : Nat) : List (Value × Value) → List PlacedText
  | [] => []
  | (_, value) :: entries =>
    value.placedTexts.map (PlacedText.below index) ++ placedEntryTexts (index + 1) entries

/-- The texts of items, the first of which has the given number. -/
def placedItemTexts (index : Nat) : List Value → List PlacedText
  | [] => []
  | item :: items =>
    item.placedTexts.map (PlacedText.below index) ++ placedItemTexts (index + 1) items

end

theorem placedEntryTexts_eq (index : Nat) (entries : List (Value × Value)) :
    placedEntryTexts index entries =
      ((entries.map Prod.snd).zipIdx index).flatMap fun child =>
        child.1.placedTexts.map (PlacedText.below child.2) := by
  induction entries generalizing index with
  | nil => rfl
  | cons entry entries ih =>
      rw [placedEntryTexts, ih, List.map_cons, List.zipIdx_cons, List.flatMap_cons]

theorem placedItemTexts_eq (index : Nat) (items : List Value) :
    placedItemTexts index items =
      (items.zipIdx index).flatMap fun child =>
        child.1.placedTexts.map (PlacedText.below child.2) := by
  induction items generalizing index with
  | nil => rfl
  | cons item items ih => rw [placedItemTexts, ih, List.zipIdx_cons, List.flatMap_cons]

/-- The texts of a value are itself, or those of its children one after the other. -/
theorem placedTexts_eq (value : Value) :
    value.placedTexts =
      value.ownText?.toList.map (PlacedText.mk []) ++
        value.children.zipIdx.flatMap fun child =>
          child.1.placedTexts.map (PlacedText.below child.2) := by
  cases value with
  | mapping entries => exact placedEntryTexts_eq 0 entries
  | sequence items => exact placedItemTexts_eq 0 items
  | _ => rfl

/-- A text of a child is one of the value, and the other way round. -/
theorem below_mem_placedTexts_iff {index : Nat} {value : Value} (placed : PlacedText) :
    placed.below index ∈ value.placedTexts ↔
      ∃ child, value.child? index = some child ∧ placed ∈ child.placedTexts := by
  have hOther {other : Nat} {child : Value} :
      placed.below index ∈ child.placedTexts.map (PlacedText.below other) ↔
        other = index ∧ placed ∈ child.placedTexts := by
    constructor
    · intro hMem
      obtain ⟨found, hFound, hSame⟩ := List.mem_map.mp hMem
      obtain rfl : other = index := (List.cons.inj (congrArg PlacedText.place hSame)).1
      exact ⟨rfl, PlacedText.below_injective other hSame ▸ hFound⟩
    · rintro ⟨rfl, hMem⟩
      exact List.mem_map_of_mem hMem
  rw [placedTexts_eq, child?_eq_getElem?_children, List.mem_append, List.mem_flatMap]
  constructor
  · rintro (hOwn | ⟨⟨child, other⟩, hChild, hMem⟩)
    · obtain ⟨text, -, hSame⟩ := List.mem_map.mp hOwn
      cases congrArg PlacedText.place hSame
    · obtain ⟨rfl, hPlaced⟩ := hOther.mp hMem
      exact ⟨child, List.mk_mem_zipIdx_iff_getElem?.mp hChild, hPlaced⟩
  · rintro ⟨child, hChild, hPlaced⟩
    exact .inr ⟨(child, index), List.mk_mem_zipIdx_iff_getElem?.mpr hChild,
      hOther.mpr ⟨rfl, hPlaced⟩⟩

/-- The texts are those that stand at some place. -/
theorem mem_placedTexts_iff {place : List Nat} {text : String} {value : Value} :
    ⟨place, text⟩ ∈ value.placedTexts ↔ value.at? place = some (string text) := by
  induction place generalizing value with
  | nil =>
      rw [placedTexts_eq]
      cases value <;> simp [ownText?, at?, PlacedText.below, eq_comm]
  | cons index place ih =>
      rw [at?, Option.bind_eq_some_iff]
      simp only [← ih]
      exact below_mem_placedTexts_iff ⟨place, text⟩

/-- The places of the texts are in the order of the document. -/
theorem pairwise_placedTexts (value : Value) :
    value.placedTexts.Pairwise fun first second => first.place < second.place := by
  induction value using induction_on_children with
  | step value ih =>
      rw [placedTexts_eq, List.pairwise_append, List.pairwise_flatMap]
      refine ⟨?_, ⟨?_, ?_⟩, ?_⟩
      · cases value.ownText? with
        | none => exact .nil
        | some text => exact List.pairwise_singleton _ _
      · rintro ⟨child, index⟩ hChild
        rw [List.pairwise_map]
        have hMem := List.mem_of_getElem? (List.mk_mem_zipIdx_iff_getElem?.mp hChild)
        exact (ih child hMem).imp fun hLess => List.cons_lt_cons_iff.mpr (.inr ⟨rfl, hLess⟩)
      · -- The texts of different children differ in the number of the child.
        have hNumbers : value.children.zipIdx.Pairwise fun first second => first.2 < second.2 := by
          rw [← List.pairwise_map (f := Prod.snd) (R := (· < ·)), List.zipIdx_map_snd]
          exact List.pairwise_lt_range' 1
        refine hNumbers.imp fun hLess first hFirst second hSecond => ?_
        obtain ⟨_, -, rfl⟩ := List.mem_map.mp hFirst
        obtain ⟨_, -, rfl⟩ := List.mem_map.mp hSecond
        exact List.cons_lt_cons_iff.mpr (.inl hLess)
      · intro first hFirst second hSecond
        obtain ⟨text, -, rfl⟩ := List.mem_map.mp hFirst
        obtain ⟨_, -, hSecond⟩ := List.mem_flatMap.mp hSecond
        obtain ⟨_, -, rfl⟩ := List.mem_map.mp hSecond
        exact List.nil_lt_cons _ _

/-! ## Texts that expansion looks at -/

/-- Whether a place is inside an item of a list: the item stands above the place. -/
def isInsideItem : List Nat → Value → Bool
  | index :: place, mapping entries => ((mapping entries).child? index).any (isInsideItem place)
  | _ :: place, sequence _ => !place.isEmpty
  | _, _ => false

section Expansion

variable (environment : Environment)

/-- A text is expanded where it stands, unless it is inside an item of a list. -/
theorem at?_expand {place : List Nat} {text : String} {value : Value}
    (h : value.at? place = some (string text)) :
    (value.expand environment).at? place =
      some (string (if value.isInsideItem place then text else expandText environment text)) := by
  induction place generalizing value with
  | nil =>
      obtain rfl : value = string text := Option.some.inj h
      rfl
  | cons index place ih =>
      obtain ⟨child, hChild, hText⟩ := Option.bind_eq_some_iff.mp h
      cases value with
      | mapping entries =>
          rw [at?, child?_expand_mapping, hChild, isInsideItem, hChild]
          exact ih hText
      | sequence items =>
          rw [at?, child?_expand_sequence, hChild, isInsideItem]
          cases place with
          | nil =>
              obtain rfl : child = string text := Option.some.inj hText
              rfl
          | cons next place =>
              -- Something stands below the item, so it is no text and stays as it is.
              cases child with
              | string _ => cases hText
              | _ => exact hText
      | _ => cases hChild

theorem at?_expandEntries {place : List Nat} {text : String} {entries : List (Value × Value)}
    (h : (mapping entries).at? place = some (string text)) :
    (mapping (expandEntries environment entries)).at? place =
      some (string (if (mapping entries).isInsideItem place then text
        else expandText environment text)) :=
  at?_expand environment h

theorem entryWarnings_eq_flatMap (entries : List (Value × Value)) :
    entryWarnings environment entries =
      (entries.map Prod.snd).flatMap (warnings environment) := by
  induction entries with
  | nil => rfl
  | cons entry entries ih => rw [entryWarnings, ih, List.map_cons, List.flatMap_cons]

/-- The warnings about a text of a value, if expansion looks at it. -/
def warningsAt (value : Value) (placed : PlacedText) : List String :=
  if value.isInsideItem placed.place then [] else expansionWarnings environment placed.text

/-- What is collected from the children of a value is collected from its texts. -/
theorem flatMap_children {items : List Value} {collect : Value → List String}
    {collectText : PlacedText → List String}
    (h : ∀ index child, items[index]? = some child →
      collect child = child.placedTexts.flatMap fun placed => collectText (placed.below index)) :
    items.flatMap collect =
      (items.zipIdx.flatMap fun child =>
        child.1.placedTexts.map (PlacedText.below child.2)).flatMap collectText := by
  calc items.flatMap collect
      = (items.zipIdx.map Prod.fst).flatMap collect := by rw [List.zipIdx_map_fst]
    _ = items.zipIdx.flatMap fun child => collect child.1 := List.flatMap_map _ _ _
    _ = items.zipIdx.flatMap fun child =>
          (child.1.placedTexts.map (PlacedText.below child.2)).flatMap collectText := by
        refine List.flatMap_congr fun child hChild => ?_
        rw [h child.2 child.1 (List.mk_mem_zipIdx_iff_getElem?.mp hChild), List.flatMap_map]
    _ = _ := List.flatMap_assoc.symm

/-- The warnings are those of the texts that expansion looks at, in the order of the
document. -/
theorem warnings_eq_flatMap (value : Value) :
    warnings environment value = value.placedTexts.flatMap (warningsAt environment value) := by
  induction value using induction_on_children with
  | step value ih =>
      rw [placedTexts_eq]
      cases value with
      | string text => simp [warnings, ownText?, children, warningsAt, isInsideItem]
      | mapping entries =>
          refine (entryWarnings_eq_flatMap environment entries).trans
            (flatMap_children fun index child hChild => ?_)
          rw [ih child (List.mem_of_getElem? hChild)]
          -- A text is inside an item of the mapping if it is inside one of the child.
          refine List.flatMap_congr fun placed _ => ?_
          have hBelow : (mapping entries).child? index = some child :=
            (child?_eq_getElem?_children index _).trans hChild
          simp [warningsAt, PlacedText.below, isInsideItem, hBelow]
      | sequence items =>
          refine flatMap_children fun index child hChild => ?_
          cases child with
          | string text =>
              simp [itemWarnings, placedTexts, warningsAt, PlacedText.below, isInsideItem]
          | _ =>
              -- The texts of an item that is no text are inside it.
              refine (List.flatMap_eq_nil_iff.mpr ?_).symm
              rintro ⟨place, text⟩ hMem
              cases place with
              | nil => cases mem_placedTexts_iff.mp hMem
              | cons next place => rfl
      | _ => rfl

end Expansion

/-! ## Documents that are expanded in full -/

section Collecting

variable {α β : Type} (skips : α → Bool) (collect : α → List β)

theorem sublist_flatMap_of_skipped (items : List α) :
    (items.flatMap fun item => if skips item then [] else collect item).Sublist
      (items.flatMap collect) := by
  induction items with
  | nil => exact .refl []
  | cons item items ih =>
      rw [List.flatMap_cons, List.flatMap_cons]
      refine .append ?_ ih
      split
      · exact List.nil_sublist _
      · exact .refl _

variable {skips collect}

/-- Nothing is missing from a collection exactly if what is skipped has nothing. -/
theorem flatMap_skipped_eq_iff {items : List α} :
    (items.flatMap fun item => if skips item then [] else collect item) = items.flatMap collect ↔
      ∀ item ∈ items, skips item = true → collect item = [] := by
  induction items with
  | nil => simp
  | cons item items ih =>
      rw [List.flatMap_cons, List.flatMap_cons, List.forall_mem_cons]
      cases hSkips : skips item with
      | false =>
          rw [if_neg Bool.false_ne_true, List.append_cancel_left_eq]
          exact ih.trans (by simp)
      | true =>
          rw [if_pos rfl, List.nil_append]
          constructor
          · intro hSame
            -- The rest alone is as long as the whole, so the first item has nothing.
            have hLength := (sublist_flatMap_of_skipped skips collect items).length_le
            rw [hSame, List.length_append] at hLength
            have hFirst : collect item = [] := List.eq_nil_of_length_eq_zero (by omega)
            rw [hFirst, List.nil_append] at hSame
            exact ⟨fun _ => hFirst, ih.mp hSame⟩
          · rintro ⟨hFirst, hRest⟩
            rw [hFirst rfl, List.nil_append, ih.mpr hRest]

end Collecting

/-- A text that warns of nothing in an environment without variables has no placeholder. -/
theorem not_holdsPlaceholder_of_no_warnings {text : String}
    (h : expansionWarnings ⟨[]⟩ text = []) : ¬ HoldsPlaceholder text := by
  intro hHolds
  obtain ⟨name, hName⟩ := (holdsPlaceholder_iff text).mp hHolds
  have hNone := List.filterMap_eq_nil_iff.mp h _ hName
  cases hNone

/-- Every text of entries is expanded where it stands, and the warnings are those of all
their texts in the order of the document. -/
structure ExpandsEveryText (environment : Environment) (entries : List (Value × Value)) :
    Prop where
  texts : ∀ place text, (mapping entries).at? place = some (string text) →
    (mapping (expandEntries environment entries)).at? place =
      some (string (expandText environment text))
  warnings : entryWarnings environment entries =
    (mapping entries).placedTexts.flatMap fun placed => expansionWarnings environment placed.text

theorem expandsEveryText_iff {environment : Environment} {entries : List (Value × Value)} :
    ExpandsEveryText environment entries ↔
      ∀ place text, (mapping entries).at? place = some (string text) →
        (mapping entries).isInsideItem place = true →
          expandText environment text = text ∧ expansionWarnings environment text = [] := by
  -- Some of all warnings, so that they are all of them if nothing is missing.
  have hWarnings := warnings_eq_flatMap environment (mapping entries)
  constructor
  · rintro ⟨hTexts, hAll⟩ place text hText hInside
    have hExpanded := hTexts place text hText
    rw [at?_expandEntries environment hText, if_pos hInside] at hExpanded
    have hNone := flatMap_skipped_eq_iff.mp (hWarnings.symm.trans hAll) ⟨place, text⟩
      (mem_placedTexts_iff.mpr hText) hInside
    exact ⟨(string.inj (Option.some.inj hExpanded)).symm, hNone⟩
  · intro h
    refine ⟨fun place text hText => ?_, hWarnings.trans (flatMap_skipped_eq_iff.mpr ?_)⟩
    · rw [at?_expandEntries environment hText]
      split
      · next hInside => rw [(h place text hText hInside).1]
      · rfl
    · rintro ⟨place, text⟩ hMem hInside
      exact (h place text (mem_placedTexts_iff.mp hMem) hInside).2

/-- A document is expanded in full exactly if expanding makes no difference to the texts
inside items of lists; in every environment exactly if these have no placeholders.  In
any case a text is expanded unless it is inside an item, with the warnings of the texts
that are expanded.  The texts are listed where they stand, in the order of the document. -/
theorem every_text_expanded_iff (entries : List (Value × Value)) :
    (∀ environment, ExpandsEveryText environment entries ↔
        ∀ place text, (mapping entries).at? place = some (string text) →
          (mapping entries).isInsideItem place = true →
            expandText environment text = text ∧ expansionWarnings environment text = []) ∧
      ((∀ environment, ExpandsEveryText environment entries) ↔
        ∀ place text, (mapping entries).at? place = some (string text) →
          (mapping entries).isInsideItem place = true → ¬ HoldsPlaceholder text) ∧
      (∀ environment,
        (∀ place text, (mapping entries).at? place = some (string text) →
          (mapping (expandEntries environment entries)).at? place =
            some (string (if (mapping entries).isInsideItem place then text
              else expandText environment text))) ∧
        entryWarnings environment entries =
          (mapping entries).placedTexts.flatMap (warningsAt environment (mapping entries))) ∧
      (∀ place text, ⟨place, text⟩ ∈ (mapping entries).placedTexts ↔
        (mapping entries).at? place = some (string text)) ∧
      (mapping entries).placedTexts.Pairwise fun first second => first.place < second.place := by
  refine ⟨fun environment => expandsEveryText_iff, ⟨?_, ?_⟩, fun environment => ⟨?_, ?_⟩,
    fun place text => mem_placedTexts_iff, pairwise_placedTexts (mapping entries)⟩
  · intro hAll place text hText hInside
    exact not_holdsPlaceholder_of_no_warnings
      (expandsEveryText_iff.mp (hAll ⟨[]⟩) place text hText hInside).2
  · intro hPlain environment
    refine expandsEveryText_iff.mpr fun place text hText hInside => ?_
    have hNone := hPlain place text hText hInside
    exact ⟨expandText_eq_self environment hNone, expansionWarnings_of_not_holdsPlaceholder hNone⟩
  · exact fun place text hText => at?_expandEntries environment hText
  · exact warnings_eq_flatMap environment (mapping entries)

/-- Entries with a placeholder in an item of a list, and a text without one inside an item
that is a list itself. -/
def entriesOfItems : List (Value × Value) :=
  [(string "include", sequence [string "$\x7bREF\x7d", sequence [string "main"]]),
    (string "git", mapping [(string "base_ref", string "$\x7bREF\x7d")])]

/-- Entries with nothing to expand inside items are expanded in full: two texts are. -/
theorem every_text_expanded_of_items :
    (∀ place text, (mapping entriesOfItems).at? place = some (string text) →
        (mapping entriesOfItems).isInsideItem place = true → ¬ HoldsPlaceholder text) ∧
      (mapping entriesOfItems).isInsideItem [0, 1, 0] = true ∧
      (mapping (expandEntries ⟨[]⟩ entriesOfItems)).at? [0, 0] = some (string "") ∧
      (mapping (expandEntries ⟨[]⟩ entriesOfItems)).at? [1, 0] = some (string "") ∧
      entryWarnings ⟨[]⟩ entriesOfItems = [unsetWarning "REF", unsetWarning "REF"] := by
  have hPlain : ∀ place text, (mapping entriesOfItems).at? place = some (string text) →
      (mapping entriesOfItems).isInsideItem place = true → ¬ HoldsPlaceholder text := by
    intro place text hText hInside
    have hAll : (mapping entriesOfItems).placedTexts =
        [⟨[0, 0], "$\x7bREF\x7d"⟩, ⟨[0, 1, 0], "main"⟩, ⟨[1, 0], "$\x7bREF\x7d"⟩] := rfl
    have hMem := mem_placedTexts_iff.mpr hText
    simp only [hAll, List.mem_cons, PlacedText.mk.injEq, List.not_mem_nil, or_false] at hMem
    rcases hMem with ⟨rfl, rfl⟩ | ⟨rfl, rfl⟩ | ⟨rfl, rfl⟩
    · cases hInside
    · decide +kernel
    · cases hInside
  obtain ⟨hTexts, hWarnings⟩ := (every_text_expanded_iff entriesOfItems).2.1.mpr hPlain ⟨[]⟩
  have hEmpty : expandText ⟨[]⟩ "$\x7bREF\x7d" = "" := by decide +kernel
  refine ⟨hPlain, by decide, ?_, ?_, ?_⟩
  · exact (hTexts [0, 0] _ rfl).trans (congrArg (some ∘ string) hEmpty)
  · exact (hTexts [1, 0] _ rfl).trans (congrArg (some ∘ string) hEmpty)
  · rw [hWarnings]
    decide +kernel

/-- Entries with a placeholder in a list in a list. -/
def entriesOfNestedList : List (Value × Value) :=
  [(string "include", sequence [sequence [string "$\x7bREF\x7d"]])]

/-- A text inside an item stays as it is written, and is not warned about. -/
theorem text_inside_item_passed_over :
    (¬ ∀ environment entries place text, (mapping entries).at? place = some (string text) →
        (mapping (expandEntries environment entries)).at? place =
          some (string (expandText environment text))) ∧
      ¬ ∀ environment entries, entryWarnings environment entries =
        (mapping entries).placedTexts.flatMap fun placed =>
          expansionWarnings environment placed.text := by
  constructor
  · intro hTexts
    have hSame := hTexts ⟨[("REF", "main")]⟩ entriesOfNestedList [0, 0, 0] "$\x7bREF\x7d" rfl
    have hText : "$\x7bREF\x7d" = expandText ⟨[("REF", "main")]⟩ "$\x7bREF\x7d" :=
      string.inj (Option.some.inj hSame)
    exact absurd hText (by decide +kernel)
  · intro hWarnings
    have hNone := hWarnings ⟨[]⟩ entriesOfNestedList
    exact absurd hNone (by decide +kernel)

end PatchCoverage.Yaml.Value
