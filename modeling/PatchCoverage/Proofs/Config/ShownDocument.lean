import PatchCoverage.Config.Load
import PatchCoverage.Config.Show
import PatchCoverage.Proofs.Config.Placeholder
import PatchCoverage.Proofs.Text.Lines
import PatchCoverage.Proofs.Text.Utf8
import PatchCoverage.Proofs.Yaml.Parts
import PatchCoverage.Proofs.Yaml.Printer

namespace PatchCoverage

/-!
# The document that a configuration is shown as

A configuration is shown as a document in the form of a configuration file.  Three facts
about it matter where it is used as one: its octets are read back as the text that was
written (`decodeText_yamlText`), every setting is found under its group and its name
(`setting?_document`), and nothing in it leads back to itself.

Whether the text is read as the document again can be computed, since a document shows
one list of settings at most (`ShownEntry.ofValue?_eq_some_iff`).
-/

/-! ## The text -/

theorem ShownValue.all_yamlLine {name : String} (hName : name.toList.all Yaml.isOrdinary = true)
    (indent : Nat) (value : ShownValue) :
    (value.yamlLine indent name).all Yaml.isOrdinary = true := by
  have hIndent : (List.replicate indent ' ').all Yaml.isOrdinary = true := by
    simp [Yaml.isOrdinary_blank]
  unfold yamlLine
  dsimp only
  rw [List.all_append, List.all_append, List.all_append, List.all_append, hName, hIndent]
  cases value with
  | text value =>
      rw [Yaml.all_writeText]
      decide
  | number value =>
      rw [Yaml.all_writeNumber]
      decide
  | truth value =>
      rw [Yaml.all_writeTruth]
      decide

/-- The names of the settings of an entry. -/
def ShownEntry.names : ShownEntry → List String
  | setting _ => []
  | group settings => settings.map Prod.fst

theorem ShownEntry.all_yamlLines {name : String} {entry : ShownEntry}
    (hName : name.toList.all Yaml.isOrdinary = true)
    (hNames : ∀ name ∈ entry.names, name.toList.all Yaml.isOrdinary = true) :
    (entry.yamlLines name).all Yaml.isOrdinary = true := by
  cases entry with
  | setting value => exact ShownValue.all_yamlLine hName 0 value
  | group settings =>
      have hEnd : [':', '\n'].all Yaml.isOrdinary = true := by decide
      rw [yamlLines, List.all_append, List.all_append, hName, hEnd, List.all_flatMap,
        Bool.true_and, Bool.true_and, List.all_eq_true]
      intro setting hMem
      exact ShownValue.all_yamlLine (hNames _ (List.mem_map.mpr ⟨setting, hMem, rfl⟩)) _ _

/-- The YAML text of a configuration is written with ordinary characters. -/
theorem Configuration.all_yamlText (configuration : Configuration) :
    configuration.yamlText.toList.all Yaml.isOrdinary = true := by
  have hNames : ∀ names ∈ configuration.shown.map fun entry => (entry.1, entry.2.names),
      names.1.toList.all Yaml.isOrdinary = true ∧
        ∀ name ∈ names.2, name.toList.all Yaml.isOrdinary = true := by
    simp only [shown, ShownEntry.names, List.map_cons, List.map_nil]
    decide
  rw [yamlText, String.toList_ofList, List.all_flatMap, List.all_eq_true]
  intro entry hMem
  obtain ⟨hName, hSettings⟩ := hNames _ (List.mem_map.mpr ⟨entry, hMem, rfl⟩)
  exact ShownEntry.all_yamlLines hName hSettings

/-! ## Reading the octets -/

/-- The octets of a text without carriage returns are read back as the text. -/
theorem decodeText_encodeUtf8 {text : String} (h : '\r' ∉ text.toList) :
    decodeText (encodeUtf8 text) = .ok text := by
  rw [decodeText, decodeUtf8_encodeUtf8, Except.map, unifyNewlines_eq_self h, String.ofList_toList]

/-- A shown configuration is read back as it was written. -/
theorem Configuration.decodeText_yamlText (configuration : Configuration) :
    decodeText (encodeUtf8 configuration.yamlText) = .ok configuration.yamlText := by
  refine decodeText_encodeUtf8 fun hReturn => ?_
  have hOrdinary := List.all_eq_true.mp configuration.all_yamlText _ hReturn
  exact absurd hOrdinary (by decide)

/-! ## The document -/

namespace Yaml.Value

variable {α : Type} (valueOf : α → Value)

/-- The value of a key among entries that are made from named items is that of the item
with the name. -/
theorem entry?_map (name : String) (items : List (String × α)) :
    entry? name (items.map fun (key, item) => (string key, valueOf item)) =
      (items.lookup name).map valueOf := by
  induction items with
  | nil => rfl
  | cons item items ih =>
      obtain ⟨key, item⟩ := item
      rw [List.map_cons, List.lookup_cons, entry?, ih, BEq.comm]
      cases name == key <;> rfl

theorem entriesEndless_map (items : List (String × α))
    (h : ∀ item, (valueOf item).isEndless = false) :
    entriesEndless (items.map fun (key, item) => (string key, valueOf item)) = false := by
  induction items with
  | nil => rfl
  | cons item items ih => rw [List.map_cons, entriesEndless, h, ih, Bool.or_false]

end Yaml.Value

theorem ShownValue.isEndless_value (shown : ShownValue) : shown.value.isEndless = false := by
  cases shown <;> rfl

theorem ShownEntry.isEndless_value (entry : ShownEntry) : entry.value.isEndless = false := by
  cases entry with
  | setting shown => exact shown.isEndless_value
  | group settings =>
      exact Yaml.Value.entriesEndless_map _ settings ShownValue.isEndless_value

namespace Configuration

variable (configuration : Configuration)

/-- The document that a configuration is shown as. -/
def document : Yaml.Value :=
  .mapping configuration.fileEntries

/-- A setting as it is shown in a group. -/
def shownSetting? (group name : String) : Option ShownValue :=
  match configuration.shown.lookup group with
  | some (.group settings) => settings.lookup name
  | _ => none

theorem setting?_document (group name : String) :
    configuration.document.setting? group name =
      (configuration.shownSetting? group name).map ShownValue.value := by
  have hGroup : configuration.document.member? group =
      (configuration.shown.lookup group).map ShownEntry.value :=
    Yaml.Value.entry?_map ShownEntry.value group configuration.shown
  rw [Yaml.Value.setting?, hGroup, shownSetting?]
  cases configuration.shown.lookup group with
  | none => rfl
  | some entry =>
      cases entry with
      | setting shown => cases shown <;> rfl
      | group settings => exact Yaml.Value.entry?_map ShownValue.value name settings

theorem entriesEndless_fileEntries :
    Yaml.Value.entriesEndless configuration.fileEntries = false :=
  Yaml.Value.entriesEndless_map _ _ ShownEntry.isEndless_value

/-- A configuration in whose shown texts no placeholder is written. -/
def IsPlain : Prop :=
  ∀ text ∈ configuration.document.texts, ¬ HoldsPlaceholder text

instance : DecidablePred IsPlain := fun configuration =>
  List.decidableBAll (fun text => ¬ HoldsPlaceholder text) configuration.document.texts

/-- A configuration whose YAML text is read as the document that it was written from. -/
def IsReadBack : Prop :=
  Yaml.read configuration.yamlText = .ok configuration.document

end Configuration

/-! ### What a document shows -/

/-- The setting that a value shows. -/
def ShownValue.ofValue? : Yaml.Value → Option ShownValue
  | .string value => some (text value)
  | .number value => some (number value)
  | .bool value => some (truth value)
  | _ => none

theorem ShownValue.ofValue?_eq_some_iff {value : Yaml.Value} {shown : ShownValue} :
    ofValue? value = some shown ↔ value = shown.value := by
  cases value <;> cases shown <;> simp [ofValue?, ShownValue.value]

/-- The named items that entries are made from. -/
def itemsOf? {α : Type} (itemOf? : Yaml.Value → Option α) :
    List (Yaml.Value × Yaml.Value) → Option (List (String × α))
  | [] => some []
  | (.string name, value) :: entries => do
    let item ← itemOf? value
    let items ← itemsOf? itemOf? entries
    some ((name, item) :: items)
  | _ :: _ => none

/-- Entries are made from exactly the items that are found in them. -/
theorem itemsOf?_eq_some_iff {α : Type} {itemOf? : Yaml.Value → Option α}
    {valueOf : α → Yaml.Value}
    (hItem : ∀ {value item}, itemOf? value = some item ↔ value = valueOf item)
    {entries : List (Yaml.Value × Yaml.Value)} {items : List (String × α)} :
    itemsOf? itemOf? entries = some items ↔
      entries = items.map fun (name, item) => (.string name, valueOf item) := by
  induction items generalizing entries with
  | nil =>
      rw [List.map_nil]
      constructor
      · intro hItems
        unfold itemsOf? at hItems
        split at hItems
        · rfl
        · simp [Option.bind_eq_some_iff] at hItems
        · cases hItems
      · rintro rfl
        rfl
  | cons item items ih =>
      obtain ⟨name, item⟩ := item
      rw [List.map_cons]
      constructor
      · intro hItems
        unfold itemsOf? at hItems
        split at hItems
        · cases hItems
        · next key value entries =>
          obtain ⟨first, hFirst, hRest⟩ := Option.bind_eq_some_iff.mp hItems
          obtain ⟨rest, hTail, hParts⟩ := Option.bind_eq_some_iff.mp hRest
          obtain ⟨hHead, rfl⟩ := List.cons.inj (Option.some.inj hParts)
          obtain ⟨rfl, rfl⟩ := Prod.mk.inj hHead
          rw [hItem.mp hFirst, ih.mp hTail]
        · cases hItems
      · rintro rfl
        exact Option.bind_eq_some_iff.mpr ⟨item, hItem.mpr rfl,
          Option.bind_eq_some_iff.mpr ⟨items, ih.mpr rfl, rfl⟩⟩

/-- The entry that a value shows. -/
def ShownEntry.ofValue? : Yaml.Value → Option ShownEntry
  | .mapping entries => (itemsOf? ShownValue.ofValue? entries).map group
  | value => (ShownValue.ofValue? value).map setting

theorem ShownEntry.ofValue?_eq_some_iff {value : Yaml.Value} {entry : ShownEntry} :
    ofValue? value = some entry ↔ value = entry.value := by
  cases entry with
  | setting shown =>
      cases value with
      | mapping entries => cases shown <;> simp [ofValue?, ShownEntry.value, ShownValue.value]
      | _ => simp [ofValue?, ShownEntry.value, ShownValue.ofValue?_eq_some_iff]
  | group settings =>
      cases value with
      | mapping entries =>
          simp [ofValue?, ShownEntry.value, itemsOf?_eq_some_iff ShownValue.ofValue?_eq_some_iff]
      | _ => simp [ofValue?, ShownEntry.value]

/-- The settings that a document shows. -/
def shownOf? : Yaml.Value → Option (List (String × ShownEntry))
  | .mapping entries => itemsOf? ShownEntry.ofValue? entries
  | _ => none

namespace Configuration

theorem shownOf?_eq_some_iff {document : Yaml.Value} {configuration : Configuration} :
    shownOf? document = some configuration.shown ↔ document = configuration.document := by
  cases document with
  | mapping entries =>
      rw [shownOf?, itemsOf?_eq_some_iff ShownEntry.ofValue?_eq_some_iff]
      exact (Yaml.Value.mapping.injEq _ _).symm.to_iff
  | _ => simp [shownOf?, Configuration.document]

/-- The text of a configuration is read as its document if what is read shows the settings
of the configuration. -/
theorem isReadBack_iff {configuration : Configuration} :
    configuration.IsReadBack ↔
      (Yaml.read configuration.yamlText).toOption.bind shownOf? = some configuration.shown := by
  unfold IsReadBack
  cases Yaml.read configuration.yamlText with
  | error fault => simp [Except.toOption]
  | ok document =>
      simp only [Except.toOption, Option.bind_some, shownOf?_eq_some_iff, Except.ok.injEq]

end Configuration

end PatchCoverage
