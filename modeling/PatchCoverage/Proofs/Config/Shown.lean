import PatchCoverage.Proofs.Config.Sessions
import PatchCoverage.Proofs.Config.ShownDocument
import PatchCoverage.Proofs.Text.LetterCase
import PatchCoverage.Proofs.World.Written
import PatchCoverage.Proofs.Yaml.Given

namespace PatchCoverage

/-!
# A shown configuration is a configuration file for itself

A configuration that was loaded is shown with every setting filled in, also those that
came from the environment or were derived.  Written in the place of the configuration file
it is loaded again, and every setting comes back, by another way than before: a ref that
came from a variable is one of the file now, a directory is already in its kept form, and
an empty setting is looked for again where it was not found before.

The main statement is `loadConfiguration_of_shown`.  It takes for granted that the YAML
text of the configuration is read as the document that it was written from.
-/

/-! ## The settings -/

namespace Layers

/-- A ref that is empty was not found in the environment either. -/
theorem valueOf_of_gitText_eq_empty {layers : Layers} {name : String} {source? : Option String}
    (h : layers.gitText name source? = .ok "") : layers.environment.valueOf source? = "" := by
  unfold gitText at h
  split at h
  · next value hGiven =>
    obtain ⟨-, hIsGiven⟩ := Option.filter_eq_some_iff.mp hGiven
    unfold Setting.text at h
    split at h
    · exact absurd (Except.ok.inj h) (Yaml.Value.text_ne_empty_of_isGiven hIsGiven)
    · cases h
  · exact Except.ok.inj h

section Shown

variable {environment : Environment} {configuration : Configuration} {group name : String}

theorem inFile?_document (hPlain : configuration.IsPlain) {shown : ShownValue}
    (hShown : configuration.shownSetting? group name = some shown) :
    (Layers.mk environment configuration.document).inFile? group name = some shown.value := by
  rw [inFile?, ← Yaml.Value.setting?_expand, Yaml.Value.expand_eq_self environment hPlain,
    Configuration.setting?_document, hShown]
  rfl

theorem value_document (hPlain : configuration.IsPlain) {shown : ShownValue}
    (hShown : configuration.shownSetting? group name = some shown) (default : Yaml.Value) :
    (Layers.mk environment configuration.document).value group name default = shown.value := by
  rw [value, inFile?_document hPlain hShown, Option.getD_some]

theorem text_document (hPlain : configuration.IsPlain) {text : String}
    (hShown : configuration.shownSetting? group name = some (.text text)) (default : String) :
    (Layers.mk environment configuration.document).text group name default = .ok text := by
  rw [Layers.text, value_document hPlain hShown]
  rfl

theorem flag_document (hPlain : configuration.IsPlain) {truth : Bool}
    (hShown : configuration.shownSetting? group name = some (.truth truth)) :
    (Layers.mk environment configuration.document).flag group name = .ok truth := by
  rw [flag, value_document hPlain hShown]
  rfl

/-- The threshold of the environment goes before that of the file, before and after. -/
theorem threshold_document (hPlain : configuration.IsPlain) {document : Yaml.Value}
    {threshold : Binary64}
    (hShown : configuration.shownSetting? "coverage" "threshold" = some (.number threshold))
    (hBefore : (Layers.mk environment document).threshold = .ok threshold) :
    (Layers.mk environment configuration.document).threshold = .ok threshold := by
  rw [← hBefore]
  unfold Layers.threshold thresholdSource
  dsimp only
  cases hVariable : environment.nonempty? "DIFFCOV_THRESHOLD" with
  | some text => rfl
  | none =>
      have hThreshold := hBefore
      unfold Layers.threshold thresholdSource at hThreshold
      simp only [hVariable] at hThreshold
      dsimp only
      rw [value_document hPlain hShown, hThreshold]
      rfl

/-- A ref that was found anywhere is one of the file now; one that was not is not found
again. -/
theorem gitText_document (hPlain : configuration.IsPlain) {document : Yaml.Value} {text : String}
    {source? : Option String}
    (hShown : configuration.shownSetting? "git" name = some (.text text))
    (hBefore : (Layers.mk environment document).gitText name source? = .ok text) :
    (Layers.mk environment configuration.document).gitText name source? = .ok text := by
  rw [gitText, inFile?_document hPlain hShown]
  by_cases hEmpty : text = ""
  · subst hEmpty
    have hNone : environment.valueOf source? = "" := valueOf_of_gitText_eq_empty hBefore
    exact congrArg Except.ok hNone
  · have hGiven : (ShownValue.text text).value.isGiven = true := by
      change (!text.isEmpty) = true
      rw [Bool.not_eq_true', ← Bool.not_eq_true, String.isEmpty_iff]
      exact hEmpty
    rw [Option.filter_some, if_pos hGiven]
    rfl

/-- The document of a configuration makes up the same configuration in the same
environment. -/
theorem makes_document {document : Yaml.Value} {root : String}
    (hPlain : configuration.IsPlain) (hFormed : configuration.paths.IsFormed)
    (hMakes : (Layers.mk environment document).Makes root configuration) :
    (Layers.mk environment configuration.document).Makes root
      { configuration with raw := configuration.fileEntries } := by
  obtain ⟨hKept, hReport⟩ := PathSettings.isFormed_iff.mp hFormed
  obtain ⟨kind, -, hKind⟩ := hMakes.counterKind
  exact
    { root := hMakes.root
      threshold := threshold_document hPlain rfl hMakes.threshold
      counterKind := ⟨_, text_document hPlain rfl _, by rw [hKind, upperCase_idem]⟩
      failUnderThreshold := flag_document hPlain rfl
      modulePath := ⟨_, text_document hPlain rfl _,
        (normalizeDirectory_of_isDirectory hKept.modulePath).symm⟩
      sourceRoot := ⟨_, text_document hPlain rfl _,
        (normalizeDirectory_of_isDirectory hKept.sourceRoot).symm⟩
      reportPath := ⟨_, text_document hPlain rfl _, (if_neg hReport).symm⟩
      baseRef := gitText_document hPlain rfl hMakes.baseRef
      headRef := gitText_document hPlain rfl hMakes.headRef
      repository := gitText_document hPlain rfl hMakes.repository
      setOutputLines := flag_document hPlain rfl
      githubOutput := flag_document hPlain rfl
      stepSummary := flag_document hPlain rfl
      raw := (Yaml.Value.expandEntries_eq_self environment hPlain).symm }

end Shown

end Layers

/-! ## Loading again -/

/-- A configuration that was loaded, without placeholders in its texts, is loaded again
when the YAML text that shows it is written in the place of the configuration file. -/
theorem loadConfiguration_of_shown [Limits] {world written : World} {directory : PathName}
    {configuration : Configuration}
    (hLoaded : (world.loadConfiguration directory).outcome = .ok configuration)
    (hPlain : configuration.IsPlain)
    (hYaml : configuration.IsReadBack)
    (hDepth : Limits.isTooDeep configuration.yamlText = false)
    (hWritten : world.write (world.configurationFile directory)
      (encodeUtf8 configuration.yamlText) = .ok written) :
    (written.loadConfiguration directory).outcome =
      .ok { configuration with raw := configuration.fileEntries } := by
  obtain ⟨document, hBefore, hMakes⟩ := World.exists_holdsDocument hLoaded
  obtain ⟨hFile, hRead, hSame⟩ := World.write_effect hWritten
  have hDirectory : directory.hasZero = false :=
    (World.configurationDocument_eq_ok_iff.mpr hBefore).1
  -- Only the files have changed, so the configuration file is the one that was written.
  have hEnvironment : written.environment = world.environment := by rw [hSame]
  have hRoot : written.resolve directory = world.resolve directory := by
    rw [hSame]
    rfl
  have hName : written.configurationFile directory = world.configurationFile directory :=
    congrArg (fun root => root.join (PathName.ofText configurationFileName)) hRoot
  have hHolds : written.HoldsDocument directory configuration.document :=
    .written hDirectory (hName ▸ hFile) (hName ▸ hRead) configuration.decodeText_yamlText hDepth
      hYaml
  have hAgain := Layers.makes_document hPlain (Configuration.isFormed_of_loaded hLoaded) hMakes
  rw [World.outcome_of_holdsDocument hHolds configuration.entriesEndless_fileEntries,
    mapError_eq_ok_iff, hEnvironment, hRoot]
  exact (Layers.configurationOf_eq_ok_iff _ _ _).mpr hAgain

/-- The configuration of the merge request of `worldOfMergeRequest`, which has its threshold
and its branch from variables. -/
def configurationOfMergeRequest : Configuration :=
  { root := "/"
    coverage := ⟨.ofNat 80, "LINE", true⟩
    paths := .standard
    git := ⟨"main", "", ""⟩
    output := .standard
    raw := [] }

theorem isReadBack_configurationOfMergeRequest : configurationOfMergeRequest.IsReadBack := by
  rw [Configuration.isReadBack_iff]
  unfold Yaml.read Configuration.yamlText
  -- What is read are the characters that were written, without a text in between.
  rw [String.toList_ofList]
  decide +kernel

/-- In that merge request the shown configuration is loaded again, although the file that it
is written in no longer asks for a variable. -/
theorem loadConfiguration_of_shown_of_mergeRequest :
    ∃ configuration written,
      (worldOfMergeRequest.loadConfiguration (PathName.ofText ".")).outcome = .ok configuration ∧
      configuration.shown = configurationOfMergeRequest.shown ∧
      worldOfMergeRequest.write (worldOfMergeRequest.configurationFile (PathName.ofText "."))
        (encodeUtf8 configuration.yamlText) = .ok written ∧
      (written.loadConfiguration (PathName.ofText ".")).outcome =
        .ok { configuration with raw := configuration.fileEntries } := by
  obtain ⟨configuration, hLoaded, hShown⟩ := exists_of_toOption_map
    (by decide +kernel :
      ((worldOfMergeRequest.loadConfiguration (PathName.ofText ".")).outcome.map
        Configuration.shown).toOption = some configurationOfMergeRequest.shown)
  have hText : configuration.yamlText = configurationOfMergeRequest.yamlText := by
    rw [Configuration.yamlText, hShown, Configuration.yamlText]
  have hDocument : configuration.document = configurationOfMergeRequest.document := by
    rw [Configuration.document, Configuration.fileEntries, hShown, Configuration.document,
      Configuration.fileEntries]
  obtain ⟨written, hWritten, -⟩ := exists_of_toOption_map
    (by decide +kernel :
      ((worldOfMergeRequest.write (worldOfMergeRequest.configurationFile (PathName.ofText "."))
        (encodeUtf8 configurationOfMergeRequest.yamlText)).map fun _ => true).toOption = some true)
  rw [← hText] at hWritten
  have hPlain : configuration.IsPlain := by
    have hSame : configurationOfMergeRequest.IsPlain := by decide +kernel
    rwa [Configuration.IsPlain, ← hDocument] at hSame
  have hYaml : configuration.IsReadBack := by
    rw [Configuration.IsReadBack, hText, hDocument]
    exact isReadBack_configurationOfMergeRequest
  exact ⟨configuration, written, hLoaded, hShown, hWritten,
    loadConfiguration_of_shown hLoaded hPlain hYaml rfl hWritten⟩

end PatchCoverage
