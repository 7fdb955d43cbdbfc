import Mathlib.Data.List.Infix
import Mathlib.Data.List.TakeWhile
import PatchCoverage.Config.Placeholder

namespace PatchCoverage

/-!
# Texts with and without placeholders

`HoldsPlaceholder` says of a text that a placeholder is written somewhere in it, without
reading the text from the left.  Reading it cuts it into segments that make up the text
again, and one of them is a placeholder exactly if one is written in the text
(`holdsPlaceholder_iff`).

The main statement is `Yaml.Value.expandEntries_eq_self`: entries in whose values no
placeholder is written stay as they are in every environment.
-/

/-- A placeholder as it is written. -/
def writtenPlaceholder (name : List Char) : List Char :=
  '$' :: '{' :: (name ++ ['}'])

/-- The name of a variable as placeholders have it. -/
def IsVariableName (name : List Char) : Prop :=
  name ≠ [] ∧ ∀ c ∈ name, isWord c = true

/-- A placeholder is written somewhere in a text. -/
def HoldsPlaceholder (text : String) : Prop :=
  ∃ name, IsVariableName name ∧ writtenPlaceholder name <:+: text.toList

/-! ## Segments -/

theorem takePlaceholder?_eq_some_iff {characters name after : List Char} :
    takePlaceholder? characters = some (name, after) ↔
      IsVariableName name ∧ characters = writtenPlaceholder name ++ after := by
  constructor
  · intro hTaken
    unfold takePlaceholder? at hTaken
    split at hTaken
    · next rest =>
      split at hTaken
      · next tail hTail =>
        split at hTaken
        · cases hTaken
        · next hName =>
          obtain ⟨rfl, rfl⟩ := Prod.mk.inj (Option.some.inj hTaken)
          refine ⟨⟨by simpa using hName, fun c hMem => List.mem_takeWhile_imp hMem⟩, ?_⟩
          have hRest := List.takeWhile_append_dropWhile (p := isWord) (l := rest)
          rw [hTail] at hRest
          simp [writtenPlaceholder, hRest]
      · cases hTaken
    · cases hTaken
  · rintro ⟨⟨hName, hWord⟩, rfl⟩
    have hClosing : isWord '}' = false := by decide
    have hParts : writtenPlaceholder name ++ after = '$' :: '{' :: (name ++ '}' :: after) := by
      simp [writtenPlaceholder]
    have hFront : (name ++ '}' :: after).takeWhile isWord = name := by
      rw [List.takeWhile_append_of_pos hWord, List.takeWhile_cons_of_neg (by simp [hClosing]),
        List.append_nil]
    have hBack : (name ++ '}' :: after).dropWhile isWord = '}' :: after := by
      rw [List.dropWhile_append_of_pos hWord, List.dropWhile_cons_of_neg (by simp [hClosing])]
    rw [hParts]
    simp only [takePlaceholder?, hFront, hBack]
    exact if_neg (by simpa using hName)

/-- A segment as it is written. -/
def Segment.written : Segment → List Char
  | literal c => [c]
  | placeholder name => writtenPlaceholder name

/-- Nothing of a text is lost between its segments. -/
theorem flatMap_written_segments (characters : List Char) :
    (segments characters).flatMap Segment.written = characters := by
  fun_induction segments characters with
  | case1 characters name after hTaken ih =>
      obtain ⟨-, hParts⟩ := takePlaceholder?_eq_some_iff.mp hTaken
      rw [List.flatMap_cons, ih, hParts]
      rfl
  | case2 hTaken => rfl
  | case3 c rest hTaken ih =>
      rw [List.flatMap_cons, ih]
      rfl

/-- A placeholder among the segments is written in the text. -/
theorem isWritten_of_mem_segments {characters name : List Char}
    (h : Segment.placeholder name ∈ segments characters) :
    IsVariableName name ∧ writtenPlaceholder name <:+: characters := by
  fun_induction segments characters with
  | case1 characters taken after hTaken ih =>
      obtain ⟨hName, hParts⟩ := takePlaceholder?_eq_some_iff.mp hTaken
      rcases List.mem_cons.mp h with hFirst | hRest
      · obtain rfl := Segment.placeholder.inj hFirst
        refine ⟨hName, ?_⟩
        rw [hParts]
        exact (List.prefix_append _ after).isInfix
      · refine ⟨(ih hRest).1, (ih hRest).2.trans ?_⟩
        rw [hParts]
        exact (List.suffix_append _ after).isInfix
  | case2 hTaken => cases h
  | case3 c rest hTaken ih =>
      have hRest : Segment.placeholder name ∈ segments rest := by simpa using h
      exact ⟨(ih hRest).1, (ih hRest).2.trans (List.suffix_cons c rest).isInfix⟩

/-- A placeholder among the segments is one that is written in the text, and the other
way round. -/
theorem exists_infix_iff_mem_segments (characters : List Char) :
    (∃ name, IsVariableName name ∧ writtenPlaceholder name <:+: characters) ↔
      ∃ name, Segment.placeholder name ∈ segments characters := by
  refine ⟨?_, fun ⟨name, hMem⟩ => ⟨name, isWritten_of_mem_segments hMem⟩⟩
  fun_induction segments characters with
  | case1 characters name after hTaken ih => exact fun _ => ⟨name, List.mem_cons_self⟩
  | case2 hTaken => simp [writtenPlaceholder]
  | case3 c rest hTaken ih =>
      rintro ⟨name, hName, hWritten⟩
      rcases List.infix_cons_iff.mp hWritten with ⟨after, hAfter⟩ | hLater
      · -- No placeholder begins here, since none was taken.
        have hSome := takePlaceholder?_eq_some_iff.mpr ⟨hName, hAfter.symm⟩
        rw [hTaken] at hSome
        cases hSome
      · obtain ⟨other, hOther⟩ := ih ⟨name, hName, hLater⟩
        exact ⟨other, List.mem_cons_of_mem _ hOther⟩

theorem holdsPlaceholder_iff (text : String) :
    HoldsPlaceholder text ↔ ∃ name, Segment.placeholder name ∈ segments text.toList :=
  exists_infix_iff_mem_segments text.toList

/-- Whether a segment is a placeholder. -/
def Segment.isPlaceholder : Segment → Bool
  | literal _ => false
  | placeholder _ => true

instance : DecidablePred HoldsPlaceholder := fun text =>
  decidable_of_iff ((segments text.toList).any Segment.isPlaceholder = true) <| by
    rw [holdsPlaceholder_iff, List.any_eq_true]
    constructor
    · rintro ⟨segment, hMem, hPlaceholder⟩
      cases segment with
      | literal c => cases hPlaceholder
      | placeholder name => exact ⟨name, hMem⟩
    · rintro ⟨name, hMem⟩
      exact ⟨_, hMem, rfl⟩

/-! ## Expansion -/

section Expansion

variable (environment : Environment)

/-- A text without placeholders stays as it is. -/
theorem expandText_eq_self {text : String} (h : ¬ HoldsPlaceholder text) :
    expandText environment text = text := by
  have hSame : (segments text.toList).flatMap (Segment.expand environment) =
      (segments text.toList).flatMap Segment.written := by
    refine List.flatMap_congr fun segment hMem => ?_
    cases segment with
    | literal c => rfl
    | placeholder name => exact absurd ((holdsPlaceholder_iff text).mpr ⟨name, hMem⟩) h
  rw [expandText, hSame, flatMap_written_segments, String.ofList_toList]

namespace Yaml.Value

/-- The text of a value that is one. -/
def ownText? : Value → Option String
  | string text => some text
  | _ => none

mutual

/-- The texts of a value that expansion looks at: it passes over keys, and over what
stands in the items of a list. -/
def texts : Value → List String
  | string text => [text]
  | mapping entries => entryTexts entries
  | sequence items => items.filterMap ownText?
  | _ => []

/-- The texts of the values of entries. -/
def entryTexts : List (Value × Value) → List String
  | [] => []
  | (_, value) :: entries => texts value ++ entryTexts entries

end

theorem expandItem_eq_self {item : Value}
    (h : ∀ text ∈ item.ownText?, ¬ HoldsPlaceholder text) :
    item.expandItem environment = item := by
  cases item with
  | string text => exact congrArg string (expandText_eq_self environment (h text rfl))
  | _ => rfl

mutual

/-- A value without placeholders stays as it is. -/
theorem expand_eq_self : ∀ {value : Value},
    (∀ text ∈ value.texts, ¬ HoldsPlaceholder text) → value.expand environment = value
  | string text, h =>
      congrArg string (expandText_eq_self environment (h text (List.mem_singleton_self text)))
  | mapping _, h => congrArg mapping (expandEntries_eq_self h)
  | sequence items, h => by
      have hItems : items.map (expandItem environment) = items.map id :=
        List.map_congr_left fun item hItem =>
          expandItem_eq_self environment fun text hText =>
            h text (List.mem_filterMap.mpr ⟨item, hItem, hText⟩)
      exact congrArg sequence (hItems.trans (List.map_id items))
  | null, _ | bool _, _ | integer _, _ | number _, _ | octets _, _ | date _, _
  | timestamp _, _ | members _, _ | pair _ _, _ | enclosing _, _ => rfl

/-- Entries without placeholders stay as they are. -/
theorem expandEntries_eq_self : ∀ {entries : List (Value × Value)},
    (∀ text ∈ entryTexts entries, ¬ HoldsPlaceholder text) →
      expandEntries environment entries = entries
  | [], _ => rfl
  | (key, value) :: entries, h => by
      have hValue : value.expand environment = value :=
        expand_eq_self fun text hText => h text (List.mem_append_left _ hText)
      have hEntries : expandEntries environment entries = entries :=
        expandEntries_eq_self fun text hText => h text (List.mem_append_right _ hText)
      rw [expandEntries, hValue, hEntries]

end

end Yaml.Value

end Expansion

end PatchCoverage
