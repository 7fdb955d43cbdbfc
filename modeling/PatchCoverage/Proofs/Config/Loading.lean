import PatchCoverage.Proofs.Config.Layers
import PatchCoverage.World.Unlimited

namespace PatchCoverage

/-!
# Loading returns the configuration of the layers

`World.HoldsDocument` says which document a directory is configured by: the one
that is written in its configuration file, if its reader can follow that, or the missing
value if there is no such file.  From there on loading is a matter of the layers alone.

The main statement is `loadConfiguration_layered`.  Beside the configuration it
says which errors there are: a document without long integers is refused only
for a threshold that is no number or a flag that is no truth value, and the
error quotes that value.
-/

/-! ## The document of a directory -/

namespace World

/-- The configuration file of a directory. -/
def configurationFile (world : World) (directory : PathName) : PathName :=
  (world.resolve directory).join (PathName.ofText configurationFileName)

/-- The document that a directory is configured by. -/
inductive HoldsDocument [Limits] (world : World) (directory : PathName) : Yaml.Value → Prop
  /-- Without a configuration file nothing is given. -/
  | missing (hDirectory : directory.hasZero = false)
      (hFile : world.isFile (world.configurationFile directory) = .ok false) :
      HoldsDocument world directory .null
  /-- The document of the configuration file. -/
  | written {octets : List UInt8} {text : String} {document : Yaml.Value}
      (hDirectory : directory.hasZero = false)
      (hFile : world.isFile (world.configurationFile directory) = .ok true)
      (hRead : world.read (world.configurationFile directory) = .ok octets)
      (hText : decodeText octets = .ok text)
      (hDepth : Limits.isTooDeep text = false)
      (hDocument : Yaml.read text = .ok document) :
      HoldsDocument world directory document

variable {world : World} {directory : PathName} {document : Yaml.Value}

theorem configurationDocument_eq_ok_iff [Limits] :
    (directory.hasZero = false ∧
        world.configurationDocument (world.resolve directory) = .ok document) ↔
      world.HoldsDocument directory document := by
  unfold configurationDocument
  constructor
  · rintro ⟨hDirectory, hDocument⟩
    obtain ⟨isFile, hFile, hDocument⟩ := bind_eq_ok_iff.mp hDocument
    replace hFile := mapError_eq_ok_iff.mp hFile
    cases isFile with
    | false =>
        obtain rfl : Yaml.Value.null = document := Except.ok.inj hDocument
        exact .missing hDirectory hFile
    | true =>
        obtain ⟨octets, hRead, hDocument⟩ := bind_eq_ok_iff.mp hDocument
        obtain ⟨text, hText, hDocument⟩ := bind_eq_ok_iff.mp hDocument
        cases hDepth : Limits.isTooDeep text with
        | true =>
            rw [hDepth] at hDocument
            cases hDocument
        | false =>
            rw [hDepth] at hDocument
            exact .written hDirectory hFile (mapError_eq_ok_iff.mp hRead)
              (mapError_eq_ok_iff.mp hText) hDepth (mapError_eq_ok_iff.mp hDocument)
  · intro hHolds
    cases hHolds with
    | missing hDirectory hFile =>
        exact ⟨hDirectory, bind_eq_ok_iff.mpr ⟨false, mapError_eq_ok_iff.mpr hFile, rfl⟩⟩
    | written hDirectory hFile hRead hText hDepth hDocument =>
        refine ⟨hDirectory, bind_eq_ok_iff.mpr ⟨true, mapError_eq_ok_iff.mpr hFile,
          bind_eq_ok_iff.mpr ⟨_, mapError_eq_ok_iff.mpr hRead,
            bind_eq_ok_iff.mpr ⟨_, mapError_eq_ok_iff.mpr hText, ?_⟩⟩⟩⟩
        rw [hDepth]
        exact mapError_eq_ok_iff.mpr hDocument

/-- Loading is a matter of the document and the environment. -/
theorem outcome_of_holdsDocument [Limits] (hDocument : world.HoldsDocument directory document)
    (hEndless : Yaml.Value.entriesEndless (entriesOf document) = false) :
    (world.loadConfiguration directory).outcome =
      (configurationOf world.environment (world.resolve directory).toText
        (Layers.mk world.environment document).entries).mapError .setting := by
  obtain ⟨hDirectory, hRead⟩ := configurationDocument_eq_ok_iff.mpr hDocument
  simp [loadConfiguration, hDirectory, hRead, hEndless, Layers.entries]

/-- Which document a directory is configured by does not depend on variables. -/
theorem HoldsDocument.withEnvironment [Limits] (h : world.HoldsDocument directory document)
    (environment : Environment) :
    HoldsDocument { world with environment := environment } directory document := by
  cases h with
  | missing hDirectory hFile => exact .missing hDirectory hFile
  | written hDirectory hFile hRead hText hDepth hDocument =>
      exact .written hDirectory hFile hRead hText hDepth hDocument

/-- A document that mentions nothing around itself can be loaded. -/
theorem entriesEndless_of_isUnfolded (h : document.IsUnfolded) :
    Yaml.Value.entriesEndless (entriesOf document) = false := by
  have hValue := Yaml.Value.isEndless_of_isUnfolded h
  cases document with
  | mapping entries => exact hValue
  | _ => rfl

/-- Whatever was loaded is made up of a document and the environment. -/
theorem exists_holdsDocument [Limits] {configuration : Configuration}
    (h : (world.loadConfiguration directory).outcome = .ok configuration) :
    ∃ document, world.HoldsDocument directory document ∧
      (Layers.mk world.environment document).Makes (world.resolve directory).toText
        configuration := by
  have hDocument : ∃ document, world.HoldsDocument directory document ∧
      Yaml.Value.entriesEndless (entriesOf document) = false := by
    unfold loadConfiguration at h
    cases hZero : directory.hasZero with
    | true => simp [hZero] at h
    | false =>
        cases hRead : world.configurationDocument (world.resolve directory) with
        | error error => simp [hZero, hRead] at h
        | ok document =>
            cases hEndless : Yaml.Value.entriesEndless (entriesOf document) with
            | true => simp [hZero, hRead, hEndless] at h
            | false =>
                exact ⟨document, configurationDocument_eq_ok_iff.mp ⟨hZero, hRead⟩, hEndless⟩
  obtain ⟨document, hHolds, hEndless⟩ := hDocument
  rw [outcome_of_holdsDocument hHolds hEndless, mapError_eq_ok_iff] at h
  exact ⟨document, hHolds, (Layers.configurationOf_eq_ok_iff _ _ _).mp h⟩

end World

/-! ## Settings without long integers -/

namespace Yaml.Value

/-- Whether a value can be read as a number. -/
def readsAsNumber : Value → Bool
  | integer _ | number _ => true
  | string text => (readNumber? text).isSome
  | _ => false

/-- Whether a value can be read as a truth value. -/
def readsAsTruth : Value → Bool
  | bool _ => true
  | string text =>
    let word := lowerCase (trimBlank text)
    Setting.trueWords.contains word || Setting.falseWords.contains word
  | _ => false

/-- A value that can be written, and has few digits if it is an integer. -/
structure IsShort (digits : Nat) (value : Value) : Prop where
  isWritable : value.isWritable = true
  fits : ∀ number, value = .integer number → number.natAbs < Nat.pow 10 digits

variable {digits : Nat} {value : Value}

theorem isShort_of_integersWithin (hDigits : digits ≤ digitLimit)
    (h : value.IntegersWithin digits) : value.IsShort digits where
  isWritable := isWritable_of_integersWithin hDigits h
  fits number hValue := by
    rw [hValue] at h
    exact natAbs_lt_of_integersWithin h

/-- Replacing placeholders brings in no integers. -/
theorem IsShort.expand (h : value.IsShort digits) (environment : Environment) :
    (value.expand environment).IsShort digits where
  isWritable := (isWritable_expand environment value).trans h.isWritable
  fits number hValue := by
    cases value with
    | integer original =>
        obtain rfl : original = number := Value.integer.inj hValue
        exact h.fits original rfl
    | _ => cases hValue

end Yaml.Value

namespace Setting

variable {key : String} {value : Yaml.Value} {digits : Nat}

/-- The fault of a setting that is to be a number and is not. -/
def numberFault? (key : String) (value : Yaml.Value) : Option SettingError :=
  if value.readsAsNumber then none else some (.notNumber key value.shown)

/-- The fault of a setting that is to be a truth value and is not. -/
def truthFault? (key : String) (value : Yaml.Value) : Option SettingError :=
  if value.readsAsTruth then none else some (.notTruthValue key value.shown)

theorem text_of_isShort (h : value.IsShort digits) : text value = .ok value.text :=
  if_pos h.isWritable

theorem faultOf?_quoting {α : Type} {error : String → SettingError} (h : value.IsShort digits) :
    faultOf? (quoting value error : Except SettingError α) = some (error value.shown) := by
  rw [quoting, if_pos h.isWritable]
  rfl

theorem faultOf?_number_of_isShort (hDigits : digits ≤ 300) (h : value.IsShort digits) :
    faultOf? (number key value) = numberFault? key value := by
  cases value with
  | integer value =>
      obtain ⟨result, hResult⟩ := Binary64.exists_ofInt_eq_ok hDigits (h.fits value rfl)
      rw [number, hResult]
      rfl
  | number value => rfl
  | string text =>
      rw [number, numberFault?, Yaml.Value.readsAsNumber]
      cases readNumber? text with
      | some value => rfl
      | none => exact faultOf?_quoting h
  | _ => exact faultOf?_quoting h

theorem faultOf?_truth_of_isShort (h : value.IsShort digits) :
    faultOf? (truth key value) = truthFault? key value := by
  cases value with
  | bool value => rfl
  | string text =>
      rw [truth, truthFault?, Yaml.Value.readsAsTruth]
      cases trueWords.contains (lowerCase (trimBlank text)) with
      | true => rfl
      | false =>
          cases falseWords.contains (lowerCase (trimBlank text)) with
          | true => rfl
          | false => exact faultOf?_quoting h
  | _ => exact faultOf?_quoting h

end Setting

namespace Layers

variable (layers : Layers)

/-- The settings that are truth values. -/
def flags : List (String × String) :=
  [("coverage", "fail_under_threshold"), ("output", "set_output_lines"),
    ("output", "github_output"), ("output", "step_summary")]

/-- What is wrong with the settings that are numbers or truth values. -/
def complaints : List SettingError :=
  (Setting.numberFault? layers.thresholdSource.1 layers.thresholdSource.2).toList ++
    flags.filterMap fun (group, name) =>
      Setting.truthFault? (group ++ "." ++ name) (layers.value group name (.bool true))

theorem complaints_eq_nil_iff :
    layers.complaints = [] ↔
      layers.thresholdSource.2.readsAsNumber = true ∧
        ∀ flag ∈ flags, (layers.value flag.1 flag.2 (.bool true)).readsAsTruth = true := by
  simp [complaints, Setting.numberFault?, Setting.truthFault?]

section ShortIntegers

variable {layers} (h : layers.document.IntegersWithin 300)
include h

theorem isShort_of_inFile? {group name : String} {value : Yaml.Value}
    (hValue : layers.inFile? group name = some value) : value.IsShort 300 := by
  obtain ⟨written, hWritten, rfl⟩ := Option.map_eq_some_iff.mp hValue
  have hShort : written.IsShort 300 :=
    Yaml.Value.isShort_of_integersWithin (by decide) (Yaml.Value.all_of_setting? h hWritten)
  exact hShort.expand layers.environment

theorem isShort_value (group name : String) (default : Yaml.Value)
    (hDefault : default.IntegersWithin 300) : (layers.value group name default).IsShort 300 := by
  unfold value
  cases hValue : layers.inFile? group name with
  | none => exact Yaml.Value.isShort_of_integersWithin (by decide) hDefault
  | some value => exact isShort_of_inFile? h hValue

theorem faultOf?_text (group name default : String) :
    faultOf? (layers.text group name default) = none := by
  rw [text, Setting.text_of_isShort (isShort_value h group name (.string default) rfl)]
  rfl

theorem faultOf?_gitText (name : String) (source? : Option String) :
    faultOf? (layers.gitText name source?) = none := by
  unfold gitText
  split
  · next value hValue =>
      obtain ⟨hFile, -⟩ := Option.filter_eq_some_iff.mp hValue
      rw [Setting.text_of_isShort (isShort_of_inFile? h hFile)]
      rfl
  · rfl

theorem isShort_thresholdSource : layers.thresholdSource.2.IsShort 300 := by
  unfold thresholdSource
  split
  · exact Yaml.Value.isShort_of_integersWithin (by decide) rfl
  · exact isShort_value h _ _ _ rfl

/-- Without long integers only numbers and truth values are complained about. -/
theorem fault?_eq_head?_complaints : layers.fault? = layers.complaints.head? := by
  have hFlag (group name : String) : faultOf? (layers.flag group name) =
      Setting.truthFault? (group ++ "." ++ name) (layers.value group name (.bool true)) :=
    Setting.faultOf?_truth_of_isShort (isShort_value h group name _ rfl)
  rw [complaints, List.head?_append, Option.head?_toList, List.head?_filterMap, fault?, threshold,
    Setting.faultOf?_number_of_isShort le_rfl (isShort_thresholdSource h)]
  simp only [baseRef, headRef, repository, hFlag, faultOf?_text h, faultOf?_gitText h, flags,
    findSome?_cons_eq_or, id_eq, List.findSome?_nil, Option.none_or]

end ShortIntegers

end Layers

/-! ## Environments that agree -/

namespace Environment

/-- Whether two environments have the same values of some variables. -/
def AgreesOn (names : List String) (first second : Environment) : Prop :=
  ∀ name ∈ names, first.get? name = second.get? name

variable {first second : Environment} {names : List String}

theorem nonempty?_of_agreesOn (h : AgreesOn names first second) {name : String}
    (hName : name ∈ names) : first.nonempty? name = second.nonempty? name := by
  rw [nonempty?, nonempty?, h name hName]

theorem valueOf_of_agreesOn (h : AgreesOn names first second) {name? : Option String}
    (hName : ∀ name ∈ name?, name ∈ names) : first.valueOf name? = second.valueOf name? := by
  cases name? with
  | none => rfl
  | some name => simp [valueOf, h name (hName name rfl)]

/-- Environments that agree on the choice of the service select the same one. -/
theorem refVariables_of_agreesOn (h : AgreesOn second.selecting first second) :
    first.refVariables = second.refVariables := by
  unfold selecting at h
  have hGithub : first.get? "GITHUB_ACTIONS" = second.get? "GITHUB_ACTIONS" := h _ (by simp)
  unfold refVariables
  rw [hGithub]
  split
  · rfl
  · next hNotGithub =>
      simp only [hNotGithub, if_false] at h
      have hGitlab : first.get? "GITLAB_CI" = second.get? "GITLAB_CI" := h _ (by simp)
      rw [hGitlab]
      split
      · next hIsGitlab =>
          have hRequest : first.get? "CI_MERGE_REQUEST_ID" = second.get? "CI_MERGE_REQUEST_ID" :=
            h _ (by simp [hIsGitlab])
          exact if_congr (by rw [Lacks, Lacks, hRequest]) rfl rfl
      · rfl

end Environment

namespace Layers

/-- Layers with the same settings, the same threshold in the environment and the
same fallbacks make up the same configuration. -/
theorem configurationOf_congr {first second : Layers} (root : String)
    (hInFile : ∀ group name, first.inFile? group name = second.inFile? group name)
    (hEntries : first.entries = second.entries)
    (hThreshold : first.environment.nonempty? "DIFFCOV_THRESHOLD" =
      second.environment.nonempty? "DIFFCOV_THRESHOLD")
    (hBaseRef : first.environment.valueOf first.environment.refVariables.baseRef =
      second.environment.valueOf second.environment.refVariables.baseRef)
    (hHeadRef : first.environment.valueOf first.environment.refVariables.headRef =
      second.environment.valueOf second.environment.refVariables.headRef)
    (hRepository : first.environment.valueOf (some first.environment.refVariables.repository) =
      second.environment.valueOf (some second.environment.refVariables.repository)) :
    configurationOf first.environment root first.entries =
      configurationOf second.environment root second.entries := by
  have hValue (group name : String) (default : Yaml.Value) :
      first.value group name default = second.value group name default := by
    rw [value, value, hInFile]
  have hCoverage : loadCoverage first.environment first.entries =
      loadCoverage second.environment second.entries := by
    rw [loadCoverage_eq, loadCoverage_eq]
    simp only [threshold, thresholdSource, text, flag, hValue, hThreshold]
  have hGit : loadGit first.environment first.entries =
      loadGit second.environment second.entries := by
    rw [loadGit_eq, loadGit_eq]
    simp only [baseRef, headRef, repository, gitText, hInFile, hBaseRef, hHeadRef, hRepository]
  -- Paths and outputs are a matter of the entries alone.
  rw [configurationOf, hCoverage, hGit, hEntries]
  rfl

/-- Variables that are not consulted change nothing, as long as the placeholders
read the same. -/
theorem configurationOf_of_agreesOn {first second : Environment} {document : Yaml.Value}
    (root : String) (hAgree : Environment.AgreesOn second.consulted first second)
    (hExpand : document.expand first = document.expand second) :
    configurationOf first root (Layers.mk first document).entries =
      configurationOf second root (Layers.mk second document).entries := by
  have hSelecting : Environment.AgreesOn second.selecting first second := by
    intro name hName
    exact hAgree name (by simp [Environment.consulted, hName])
  have hSame := Environment.refVariables_of_agreesOn hSelecting
  have hNamed {name? : Option String} (h : ∀ name ∈ name?, name ∈ second.refVariables.names) :
      first.valueOf name? = second.valueOf name? :=
    Environment.valueOf_of_agreesOn hAgree fun name hName => by
      simp [Environment.consulted, h name hName]
  refine @configurationOf_congr ⟨first, document⟩ ⟨second, document⟩ root ?_ ?_ ?_ ?_ ?_ ?_
  · intro group name
    simp only [inFile?, ← Yaml.Value.setting?_expand, hExpand]
  · rw [entries_eq, entries_eq, hExpand]
  · exact Environment.nonempty?_of_agreesOn hAgree (by simp [Environment.consulted])
  · dsimp only
    rw [hSame]
    exact hNamed (by simp +contextual [RefVariables.names])
  · dsimp only
    rw [hSame]
    exact hNamed (by simp +contextual [RefVariables.names])
  · dsimp only
    rw [hSame]
    exact hNamed (by simp [RefVariables.names])

end Layers

/-! ## Loading -/

/-- Loading a directory returns exactly the configuration that its document and
the environment make up, and otherwise fails with the first fault among the
settings.  Without long integers it fails only for a threshold that is no number
or a flag that is no truth value.  No variables matter but those consulted and
those in placeholders. -/
theorem loadConfiguration_layered [Limits] {world : World} {directory : PathName}
    {document : Yaml.Value}
    (hDocument : world.HoldsDocument directory document) (hUnfolded : document.IsUnfolded) :
    let layers : Layers := ⟨world.environment, document⟩
    let outcome := (world.loadConfiguration directory).outcome
    (∀ configuration, outcome = .ok configuration ↔
      layers.Makes (world.resolve directory).toText configuration) ∧
    (∀ error, outcome = .error error ↔ ∃ fault, layers.fault? = some fault ∧
      error = .setting fault) ∧
    (document.IntegersWithin 300 →
      ((∃ configuration, outcome = .ok configuration) ↔
        layers.thresholdSource.2.readsAsNumber = true ∧
          ∀ flag ∈ Layers.flags, (layers.value flag.1 flag.2 (.bool true)).readsAsTruth = true) ∧
      ∀ error, outcome = .error error ↔ ∃ fault, layers.complaints.head? = some fault ∧
        error = .setting fault) ∧
    ∀ environment, Environment.AgreesOn world.environment.consulted environment world.environment →
      document.expand environment = document.expand world.environment →
        ({ world with environment := environment }.loadConfiguration directory).outcome =
          outcome := by
  intro layers outcome
  have hEndless := World.entriesEndless_of_isUnfolded hUnfolded
  have hOutcome : outcome = (configurationOf world.environment (world.resolve directory).toText
      layers.entries).mapError .setting :=
    World.outcome_of_holdsDocument hDocument hEndless
  have hFailed (error : LoadError) : outcome = .error error ↔
      ∃ fault, layers.fault? = some fault ∧ error = .setting fault := by
    rw [hOutcome, mapError_eq_error_iff, layers.faultOf?_configurationOf]
  refine ⟨?_, hFailed, ?_, ?_⟩
  · intro configuration
    rw [hOutcome, mapError_eq_ok_iff]
    exact layers.configurationOf_eq_ok_iff _ _
  · intro hShort
    have hFault : layers.fault? = layers.complaints.head? :=
      Layers.fault?_eq_head?_complaints hShort
    rw [hFault] at hFailed
    refine ⟨?_, hFailed⟩
    rw [← layers.complaints_eq_nil_iff, ← List.head?_eq_none_iff]
    exact exists_eq_ok_iff hFailed
  · intro environment hAgree hExpand
    rw [hOutcome, World.outcome_of_holdsDocument (hDocument.withEnvironment environment) hEndless]
    exact congrArg _ (Layers.configurationOf_of_agreesOn _ hAgree hExpand)

/-- A configuration file that takes the threshold from a variable. -/
def limitFile : String :=
  "coverage:\n  threshold: ${LIMIT}\n  counter_type: line\n"

/-- A job of a merge request with that configuration file. A variable of the other
service is set as well. -/
def worldOfMergeRequest : World :=
  { environment := ⟨[("GITLAB_CI", "true"), ("CI_MERGE_REQUEST_ID", "7"),
      ("CI_MERGE_REQUEST_TARGET_BRANCH_NAME", "main"), ("GITHUB_BASE_REF", "trunk"),
      ("LIMIT", "80")]⟩
    files := .directory [(".diffcov.yml", .file (encodeUtf8 limitFile))]
    directory := []
    git := none
    input := []
    columns := 80 }

/-- Whether a text is a document without long integers that mentions nothing
around itself. -/
def isShortDocument : Except Yaml.Fault Yaml.Value → Bool
  | .ok document => decide document.IsUnfolded && decide (document.IntegersWithin 300)
  | .error _ => false

theorem exists_of_isShortDocument {reading : Except Yaml.Fault Yaml.Value}
    (h : isShortDocument reading = true) :
    ∃ document, reading = .ok document ∧ document.IsUnfolded ∧ document.IntegersWithin 300 := by
  unfold isShortDocument at h
  split at h
  · obtain ⟨hUnfolded, hShort⟩ := Bool.and_eq_true_iff.mp h
    exact ⟨_, rfl, of_decide_eq_true hUnfolded, of_decide_eq_true hShort⟩
  · cases h

/-- In that job the threshold is that of the variable, and the branch that of
the merge request. -/
theorem loadConfiguration_layered_of_mergeRequest :
    ∃ document configuration,
      worldOfMergeRequest.HoldsDocument (PathName.ofText ".") document ∧
        document.IntegersWithin 300 ∧
        (Layers.mk worldOfMergeRequest.environment document).Makes "/" configuration ∧
        configuration.coverage = ⟨.ofNat 80, "LINE", true⟩ ∧
        configuration.git = ⟨"main", "", ""⟩ := by
  obtain ⟨document, hRead, hUnfolded, hShort⟩ :=
    exists_of_isShortDocument (by decide +kernel : isShortDocument (Yaml.read limitFile) = true)
  have hDocument : worldOfMergeRequest.HoldsDocument (PathName.ofText ".") document := by
    refine .written ?_ ?_ rfl ?_ rfl hRead
    · decide +kernel
    · decide +kernel
    · decide +kernel
  obtain ⟨configuration, hLoaded, hSettings⟩ := exists_of_toOption_map
    (by decide +kernel :
      ((worldOfMergeRequest.loadConfiguration (PathName.ofText ".")).outcome.map
        fun configuration => (configuration.coverage, configuration.git)).toOption =
          some (⟨.ofNat 80, "LINE", true⟩, ⟨"main", "", ""⟩))
  have hRoot : (worldOfMergeRequest.resolve (PathName.ofText ".")).toText = "/" := by
    decide +kernel
  have hMakes := ((loadConfiguration_layered hDocument hUnfolded).1 configuration).mp hLoaded
  obtain ⟨hCoverage, hGit⟩ := Prod.ext_iff.mp hSettings
  exact ⟨document, configuration, hDocument, hShort, hRoot ▸ hMakes, hCoverage, hGit⟩

end PatchCoverage
