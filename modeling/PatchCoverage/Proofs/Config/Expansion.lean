import PatchCoverage.Proofs.Config.Placeholder

namespace PatchCoverage

/-!
# Expansion keeps the shape of a document

Variables can put any text into a configuration, and that text is never read as part of
the document.  A *place* in a document is the way to it from the top, by the numbers of
the entries and items that lead there, and the *form* of a value is all that can be said
of it without looking further down or into a text: the keys of a mapping, the length of a
list, and every other value that is no text as a whole.

The main statement is `expansion_keeps_form`: at every place the expanded document has
the form that the document has there, in every environment, and two environments can
show in a text only if it names a variable that they disagree on.
-/

/-- A text has a placeholder written in it whose variable two environments disagree on. -/
def HoldsDisagreement (first second : Environment) (text : String) : Prop :=
  ∃ name, IsVariableName name ∧ writtenPlaceholder name <:+: text.toList ∧
    first.get? (String.ofList name) ≠ second.get? (String.ofList name)

/-- Nothing but such a placeholder makes a difference to a text. -/
theorem holdsDisagreement_of_expandText_ne {first second : Environment} {text : String}
    (h : expandText first text ≠ expandText second text) :
    HoldsDisagreement first second text := by
  by_contra hNone
  refine h (congrArg String.ofList (List.flatMap_congr fun segment hMem => ?_))
  cases segment with
  | literal c => rfl
  | placeholder name =>
      obtain ⟨hName, hWritten⟩ := isWritten_of_mem_segments hMem
      have hSame : first.get? (String.ofList name) = second.get? (String.ofList name) := by
        by_contra hDiffer
        exact hNone ⟨name, hName, hWritten, hDiffer⟩
      rw [Segment.expand, Segment.expand, hSame]

namespace Yaml.Value

/-! ## Places and forms -/

/-- The value of an entry, or the item of a list, with the given number. -/
def child? (index : Nat) : Value → Option Value
  | mapping entries => entries[index]?.map Prod.snd
  | sequence items => items[index]?
  | _ => none

/-- The value at a place. -/
def at? : List Nat → Value → Option Value
  | [], value => some value
  | index :: place, value => (value.child? index).bind (at? place)

/-- What can be said of a value without looking further down or into a text. -/
inductive Form where
  /-- It is a text. -/
  | text
  /-- It is a mapping with these keys. -/
  | mapping (keys : List Value)
  /-- It is a list of this length. -/
  | sequence (length : Nat)
  /-- It is this value, which is none of these. -/
  | leaf (value : Value)

/-- The form of a value. -/
def form : Value → Form
  | string _ => .text
  | mapping entries => .mapping (entries.map Prod.fst)
  | sequence items => .sequence items.length
  | value => .leaf value

/-! ## Expansion at a place -/

section Expansion

variable (environment : Environment)

theorem expandEntries_eq_map (entries : List (Value × Value)) :
    expandEntries environment entries =
      entries.map fun entry => (entry.1, entry.2.expand environment) := by
  induction entries with
  | nil => rfl
  | cons entry entries ih => rw [expandEntries, ih, List.map_cons]

/-- An item is expanded like any value if it is a text, and not at all otherwise. -/
theorem expandItem_eq_expand_or_self (item : Value) :
    (∀ environment, item.expandItem environment = item.expand environment) ∨
      ∀ environment, item.expandItem environment = item := by
  cases item with
  | string text => exact .inl fun _ => rfl
  | _ => exact .inr fun _ => rfl

theorem form_expand (value : Value) : (value.expand environment).form = value.form := by
  cases value with
  | mapping entries =>
      rw [expand, form, form, expandEntries_eq_map, List.map_map]
      rfl
  | sequence items => rw [expand, form, form, List.length_map]
  | _ => rfl

theorem child?_expand_mapping (entries : List (Value × Value)) (index : Nat) :
    ((mapping entries).expand environment).child? index =
      ((mapping entries).child? index).map (expand environment) := by
  rw [expand, child?, child?, expandEntries_eq_map, List.getElem?_map, Option.map_map,
    Option.map_map]
  rfl

theorem child?_expand_sequence (items : List Value) (index : Nat) :
    ((sequence items).expand environment).child? index =
      ((sequence items).child? index).map (expandItem environment) := by
  rw [expand, child?, child?, List.getElem?_map]

/-- The expanded document has the form of the document at every place. -/
theorem map_form_at?_expand (place : List Nat) (value : Value) :
    ((value.expand environment).at? place).map form = (value.at? place).map form := by
  induction place generalizing value with
  | nil => exact congrArg some (form_expand environment value)
  | cons index place ih =>
      rw [at?, at?]
      cases value with
      | mapping entries =>
          rw [child?_expand_mapping]
          cases (mapping entries).child? index with
          | none => rfl
          | some child => exact ih child
      | sequence items =>
          rw [child?_expand_sequence]
          cases (sequence items).child? index with
          | none => rfl
          | some item =>
              rw [Option.map_some, Option.bind_some, Option.bind_some]
              rcases expandItem_eq_expand_or_self item with hExpanded | hSame
              · rw [hExpanded, ih]
              · rw [hSame]
      | _ => rfl

end Expansion

/-- A text of the document is expanded, or left as it is, in every environment alike. -/
theorem at?_expand_of_string {place : List Nat} {value : Value} {text : String}
    (h : value.at? place = some (string text)) :
    (∀ environment, (value.expand environment).at? place =
        some (string (expandText environment text))) ∨
      ∀ environment, (value.expand environment).at? place = some (string text) := by
  induction place generalizing value with
  | nil =>
      obtain rfl : value = string text := Option.some.inj h
      exact .inl fun _ => rfl
  | cons index place ih =>
      obtain ⟨child, hChild, hText⟩ := Option.bind_eq_some_iff.mp h
      cases value with
      | mapping entries =>
          simp only [at?, child?_expand_mapping, hChild, Option.map_some, Option.bind_some]
          exact ih hText
      | sequence items =>
          simp only [at?, child?_expand_sequence, hChild, Option.map_some, Option.bind_some]
          rcases expandItem_eq_expand_or_self child with hExpanded | hSame
          · simp only [hExpanded]
            exact ih hText
          · simp only [hSame]
            exact .inr fun _ => hText
      | _ => cases hChild

/-- Expanded entries have the form of the entries at every place, whatever the
environment is: the same keys in the same order, lists of the same length, texts where
there are texts, and the same value everywhere else.  The texts at a place differ between
two environments only if these disagree on a variable that the text there names. -/
theorem expansion_keeps_form (first second : Environment) (entries : List (Value × Value))
    (place : List Nat) :
    let left := mapping (expandEntries first entries)
    let right := mapping (expandEntries second entries)
    (left.at? place).map form = ((mapping entries).at? place).map form ∧
      (right.at? place).map form = ((mapping entries).at? place).map form ∧
      ∀ text, (mapping entries).at? place = some (string text) →
        ∃ leftText rightText, left.at? place = some (string leftText) ∧
          right.at? place = some (string rightText) ∧
          (leftText ≠ rightText → HoldsDisagreement first second text) := by
  refine ⟨map_form_at?_expand first place (mapping entries),
    map_form_at?_expand second place (mapping entries), ?_⟩
  intro text hText
  rcases at?_expand_of_string hText with hExpanded | hSame
  · exact ⟨_, _, hExpanded first, hExpanded second, holdsDisagreement_of_expandText_ne⟩
  · exact ⟨text, text, hSame first, hSame second, fun hDiffer => absurd rfl hDiffer⟩

/-- Entries with a variable in a key, in the values of mappings and lists, and in a
mapping inside a list. -/
def entriesOfRef : List (Value × Value) :=
  [(string "git", mapping [(string "base_ref", string "$\x7bREF\x7d")]),
    (string "$\x7bREF\x7d", sequence [string "a $\x7bREF\x7d", integer 1,
      mapping [(string "head_ref", string "$\x7bREF\x7d")]])]

/-- A variable that holds what would be a mapping and a list in a document is a text in the
expanded one. -/
theorem expansion_keeps_form_of_written_mapping :
    let first : Environment := ⟨[("REF", "main")]⟩
    let second : Environment := ⟨[("REF", "\x7bhead_ref: [x]\x7d\n- y")]⟩
    (mapping entriesOfRef).at? [1, 0] = some (string "a $\x7bREF\x7d") ∧
      ((mapping (expandEntries second entriesOfRef)).at? [1]).map form =
        some (.sequence 3) ∧
      ∃ leftText rightText,
        (mapping (expandEntries first entriesOfRef)).at? [1, 0] = some (string leftText) ∧
        (mapping (expandEntries second entriesOfRef)).at? [1, 0] = some (string rightText) ∧
        leftText ≠ rightText ∧ HoldsDisagreement first second "a $\x7bREF\x7d" := by
  intro first second
  have hText : (mapping entriesOfRef).at? [1, 0] = some (string "a $\x7bREF\x7d") := rfl
  obtain ⟨-, hForm, -⟩ := expansion_keeps_form first second entriesOfRef [1]
  obtain ⟨-, -, hTexts⟩ := expansion_keeps_form first second entriesOfRef [1, 0]
  obtain ⟨leftText, rightText, hLeft, hRight, hDiffer⟩ := hTexts _ hText
  have hLeftText : expandText first "a $\x7bREF\x7d" = leftText :=
    string.inj (Option.some.inj hLeft)
  have hRightText : expandText second "a $\x7bREF\x7d" = rightText :=
    string.inj (Option.some.inj hRight)
  have hNe : leftText ≠ rightText := by
    rw [← hLeftText, ← hRightText]
    decide +kernel
  exact ⟨hText, hForm, leftText, rightText, hLeft, hRight, hNe, hDiffer hNe⟩

end Yaml.Value

end PatchCoverage
