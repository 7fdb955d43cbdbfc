import PatchCoverage.Config.Load
import PatchCoverage.Proofs.Config.Paths
import PatchCoverage.Proofs.Failure
import PatchCoverage.Proofs.Number.Value
import PatchCoverage.Proofs.Yaml.Parts

namespace PatchCoverage

/-!
# A configuration is made of layers

The configuration of a repository is described here a second time, one setting
at a time.  The document of the configuration file and the environment make up
`Layers`; each setting is looked up in the layers on its own, whatever else is
wrong with the document.

* The threshold is that of the environment, else that of the file, else the
  default.
* Refs and repository are those of the file where it gives them, else those of
  the one service that the environment selects, else empty.
* Every other setting is that of the file, else the default.

The main statements are `Layers.configurationOf_eq_ok_iff` and
`Layers.faultOf?_configurationOf`: what is made of the entries of a file is
exactly the configuration of the layers, and otherwise the fault of the first
setting that cannot be read.
-/

/-! ## The service -/

/-- The variables that name the refs of a pull request and the repository. -/
structure RefVariables where
  /-- The one with the branch that the change goes to. -/
  baseRef : Option String
  /-- The one with the branch of the change. -/
  headRef : Option String
  /-- The one with the repository. -/
  repository : String
  deriving DecidableEq

/-- The names of the variables. -/
def RefVariables.names (source : RefVariables) : List String :=
  source.baseRef.toList ++ source.headRef.toList ++ [source.repository]

/-- The variables of GitHub Actions, which may also be set by hand. -/
def RefVariables.github : RefVariables :=
  ⟨some "GITHUB_BASE_REF", some "GITHUB_HEAD_REF", "GITHUB_REPOSITORY"⟩

namespace Environment

/-- Whether a variable is missing or empty. -/
def Lacks (environment : Environment) (name : String) : Prop :=
  environment.get? name = none ∨ environment.get? name = some ""

instance (environment : Environment) (name : String) : Decidable (environment.Lacks name) :=
  inferInstanceAs (Decidable (_ ∨ _))

/-- The variables of the service that the environment selects.  GitLab names
refs in merge requests only. -/
def refVariables (environment : Environment) : RefVariables :=
  if environment.get? "GITHUB_ACTIONS" = some "true" then .github
  else if environment.get? "GITLAB_CI" = some "true" then
    if environment.Lacks "CI_MERGE_REQUEST_ID" then ⟨none, none, "CI_PROJECT_PATH"⟩
    else
      ⟨some "CI_MERGE_REQUEST_TARGET_BRANCH_NAME", some "CI_MERGE_REQUEST_SOURCE_BRANCH_NAME",
        "CI_PROJECT_PATH"⟩
  else .github

/-- The variables that decide which service is selected, and whether it names
refs. -/
def selecting (environment : Environment) : List String :=
  "GITHUB_ACTIONS" ::
    if environment.get? "GITHUB_ACTIONS" = some "true" then []
    else "GITLAB_CI" ::
      if environment.get? "GITLAB_CI" = some "true" then ["CI_MERGE_REQUEST_ID"] else []

/-- The variables that matter beside those in placeholders: the threshold, the
choice of the service, and the variables of that service alone. -/
def consulted (environment : Environment) : List String :=
  "DIFFCOV_THRESHOLD" :: (environment.selecting ++ environment.refVariables.names)

/-- The value of a variable, empty if there is none. -/
def valueOf (environment : Environment) (name? : Option String) : String :=
  (name?.bind environment.get?).getD ""

theorem getD_nonempty? (environment : Environment) (name : String) :
    (environment.nonempty? name).getD "" = environment.valueOf (some name) := by
  unfold nonempty? valueOf
  rw [Option.bind_some]
  cases hValue : environment.get? name with
  | none => rfl
  | some value => by_cases hEmpty : value = "" <;> simp [Option.filter, hEmpty]

theorem isSome_nonempty?_eq_false_iff (environment : Environment) (name : String) :
    (environment.nonempty? name).isSome = false ↔ environment.Lacks name := by
  unfold nonempty? Lacks
  cases hValue : environment.get? name with
  | none => simp
  | some value => by_cases hEmpty : value = "" <;> simp [Option.filter, hEmpty]

theorem holds_eq_true_iff (environment : Environment) (name value : String) :
    environment.holds name value = true ↔ environment.get? name = some value := by
  simp [holds]

/-- The three fallbacks of a job are the values of the variables of its
service. -/
theorem jobContext_eq (environment : Environment) :
    environment.jobContext.baseRef.getD "" =
        environment.valueOf environment.refVariables.baseRef ∧
      environment.jobContext.headRef.getD "" =
        environment.valueOf environment.refVariables.headRef ∧
      environment.jobContext.repository.getD "" =
        environment.valueOf (some environment.refVariables.repository) := by
  unfold jobContext provider refVariables
  simp only [holds_eq_true_iff]
  split
  · exact ⟨getD_nonempty? .., getD_nonempty? .., getD_nonempty? ..⟩
  · split
    · by_cases hLacks : environment.Lacks "CI_MERGE_REQUEST_ID"
      -- Outside a merge request there are no refs, whatever the variables say.
      · have hNone := (isSome_nonempty?_eq_false_iff environment _).mpr hLacks
        rw [if_pos hLacks]
        exact ⟨by simp [Provider.context, hNone, valueOf],
          by simp [Provider.context, hNone, valueOf], getD_nonempty? ..⟩
      · have hSome := (isSome_nonempty?_eq_false_iff environment _).not.mpr hLacks
        rw [Bool.not_eq_false] at hSome
        rw [if_neg hLacks]
        exact ⟨by simp [Provider.context, hSome, valueOf],
          by simp [Provider.context, hSome, valueOf], getD_nonempty? ..⟩
    · exact ⟨getD_nonempty? .., getD_nonempty? .., getD_nonempty? ..⟩

end Environment

/-! ## The layers -/

/-- What a configuration is made of: the environment, and the document of the
configuration file. -/
structure Layers where
  /-- The environment variables. -/
  environment : Environment
  /-- The document, the missing value without a file. -/
  document : Yaml.Value

namespace Layers

variable (layers : Layers)

/-- The value of a setting in the file, with its placeholders replaced. -/
def inFile? (group name : String) : Option Yaml.Value :=
  (layers.document.setting? group name).map (Yaml.Value.expand layers.environment)

/-- The value of a setting: that of the file, else the default. -/
def value (group name : String) (default : Yaml.Value) : Yaml.Value :=
  (layers.inFile? group name).getD default

/-- A setting that is a text. -/
def text (group name default : String) : Except SettingError String :=
  Setting.text (layers.value group name (.string default))

/-- A setting that is on unless it is turned off. -/
def flag (group name : String) : Except SettingError Bool :=
  Setting.truth (group ++ "." ++ name) (layers.value group name (.bool true))

/-- Where the threshold comes from, and its value there. -/
def thresholdSource : String × Yaml.Value :=
  match layers.environment.nonempty? "DIFFCOV_THRESHOLD" with
  | some text => ("DIFFCOV_THRESHOLD", .string text)
  | none => ("coverage.threshold", layers.value "coverage" "threshold" (.number (.ofNat 50)))

/-- The threshold. -/
def threshold : Except SettingError Binary64 :=
  Setting.number layers.thresholdSource.1 layers.thresholdSource.2

/-- A ref or the repository: that of the file if it gives one, else the value
of a variable. -/
def gitText (name : String) (source? : Option String) : Except SettingError String :=
  match (layers.inFile? "git" name).filter Yaml.Value.isGiven with
  | some value => Setting.text value
  | none => .ok (layers.environment.valueOf source?)

/-- The branch that the change goes to. -/
def baseRef : Except SettingError String :=
  layers.gitText "base_ref" layers.environment.refVariables.baseRef

/-- The branch of the change. -/
def headRef : Except SettingError String :=
  layers.gitText "head_ref" layers.environment.refVariables.headRef

/-- The repository. -/
def repository : Except SettingError String :=
  layers.gitText "repository" (some layers.environment.refVariables.repository)

/-- The configuration that the layers make up: every setting is what its own
reading returns. -/
structure Makes (root : String) (configuration : Configuration) : Prop where
  root : configuration.root = root
  threshold : layers.threshold = .ok configuration.coverage.threshold
  counterKind : ∃ kind, layers.text "coverage" "counter_type" "INSTRUCTION" = .ok kind ∧
    configuration.coverage.counterKind = upperCase kind
  failUnderThreshold :
    layers.flag "coverage" "fail_under_threshold" = .ok configuration.coverage.failUnderThreshold
  modulePath : ∃ path, layers.text "paths" "module_path" "common/artifact-manager/" = .ok path ∧
    configuration.paths.modulePath = normalizeDirectory path
  sourceRoot : ∃ path, layers.text "paths" "source_root" "src/main/java/" = .ok path ∧
    configuration.paths.sourceRoot = normalizeDirectory path
  reportPath : ∃ path, layers.text "paths" "report_path" "" = .ok path ∧
    configuration.paths.reportPath =
      if path = "" then configuration.paths.modulePath ++ "target/site/jacoco/jacoco.xml" else path
  baseRef : layers.baseRef = .ok configuration.git.baseRef
  headRef : layers.headRef = .ok configuration.git.headRef
  repository : layers.repository = .ok configuration.git.repository
  setOutputLines : layers.flag "output" "set_output_lines" = .ok configuration.output.setOutputLines
  githubOutput : layers.flag "output" "github_output" = .ok configuration.output.githubOutput
  stepSummary : layers.flag "output" "step_summary" = .ok configuration.output.stepSummary
  raw : configuration.raw =
    Yaml.Value.expandEntries layers.environment (World.entriesOf layers.document)

/-- The fault of the first setting that cannot be read. -/
def fault? : Option SettingError :=
  [faultOf? layers.threshold,
    faultOf? (layers.text "coverage" "counter_type" "INSTRUCTION"),
    faultOf? (layers.flag "coverage" "fail_under_threshold"),
    faultOf? (layers.text "paths" "module_path" "common/artifact-manager/"),
    faultOf? (layers.text "paths" "source_root" "src/main/java/"),
    faultOf? (layers.text "paths" "report_path" ""),
    faultOf? layers.baseRef,
    faultOf? layers.headRef,
    faultOf? layers.repository,
    faultOf? (layers.flag "output" "set_output_lines"),
    faultOf? (layers.flag "output" "github_output"),
    faultOf? (layers.flag "output" "step_summary")].findSome? id

end Layers

/-! ## Loading follows the layers -/

namespace Layers

variable (layers : Layers)

/-- The entries of the file, with their placeholders replaced. -/
def entries : List (Yaml.Value × Yaml.Value) :=
  Yaml.Value.expandEntries layers.environment (World.entriesOf layers.document)

theorem entries_eq :
    layers.entries = World.entriesOf (layers.document.expand layers.environment) := by
  unfold entries
  cases layers.document <;> rfl

theorem entry?_sectionOf_entries (group name : String) :
    Yaml.Value.entry? name (sectionOf layers.entries group) = layers.inFile? group name := by
  unfold inFile?
  rw [← Yaml.Value.setting?_expand]
  unfold entries sectionOf Yaml.Value.setting?
  cases layers.document with
  | mapping entries =>
      simp only [World.entriesOf, Yaml.Value.expand, Yaml.Value.member?]
      cases Yaml.Value.entry? group (Yaml.Value.expandEntries layers.environment entries) with
      | none => rfl
      | some found => cases found <;> rfl
  | _ => rfl

theorem settingOr_sectionOf_entries (group name : String) (default : Yaml.Value) :
    settingOr (sectionOf layers.entries group) name default = layers.value group name default := by
  rw [settingOr, entry?_sectionOf_entries, value]

theorem loadThreshold_eq :
    loadThreshold layers.environment (sectionOf layers.entries "coverage") = layers.threshold := by
  unfold loadThreshold threshold thresholdSource
  cases layers.environment.nonempty? "DIFFCOV_THRESHOLD" with
  | none => simp only [settingOr_sectionOf_entries]; rfl
  | some text => rfl

theorem loadCoverage_eq :
    loadCoverage layers.environment layers.entries = (do
      let threshold ← layers.threshold
      let counterKind ← layers.text "coverage" "counter_type" "INSTRUCTION"
      let failUnderThreshold ← layers.flag "coverage" "fail_under_threshold"
      pure ⟨threshold, upperCase counterKind, failUnderThreshold⟩) := by
  simp only [loadCoverage, loadThreshold_eq, settingOr_sectionOf_entries]
  rfl

theorem loadPaths_eq :
    loadPaths layers.entries = (do
      let modulePath ← layers.text "paths" "module_path" "common/artifact-manager/"
      let sourceRoot ← layers.text "paths" "source_root" "src/main/java/"
      let reportPath ← layers.text "paths" "report_path" ""
      pure (.of modulePath sourceRoot reportPath)) := by
  simp only [loadPaths, settingOr_sectionOf_entries]
  rfl

theorem givenText_eq (name : String) {fallback source? : Option String}
    (h : fallback.getD "" = layers.environment.valueOf source?) :
    givenText (sectionOf layers.entries "git") name fallback = layers.gitText name source? := by
  rw [givenText, gitText, entry?_sectionOf_entries]
  cases (layers.inFile? "git" name).filter Yaml.Value.isGiven with
  | none => exact congrArg Except.ok h
  | some value => rfl

theorem loadGit_eq :
    loadGit layers.environment layers.entries = (do
      let baseRef ← layers.baseRef
      let headRef ← layers.headRef
      let repository ← layers.repository
      pure ⟨baseRef, headRef, repository⟩) := by
  obtain ⟨hBaseRef, hHeadRef, hRepository⟩ := layers.environment.jobContext_eq
  simp only [loadGit, givenText_eq layers _ hBaseRef, givenText_eq layers _ hHeadRef,
    givenText_eq layers _ hRepository]
  rfl

theorem loadOutput_eq :
    loadOutput layers.entries = (do
      let setOutputLines ← layers.flag "output" "set_output_lines"
      let githubOutput ← layers.flag "output" "github_output"
      let stepSummary ← layers.flag "output" "step_summary"
      pure ⟨setOutputLines, githubOutput, stepSummary⟩) := by
  simp only [loadOutput, settingOr_sectionOf_entries]
  rfl

/-- The configuration of the entries is that of the layers. -/
theorem configurationOf_eq_ok_iff (root : String) (configuration : Configuration) :
    configurationOf layers.environment root layers.entries = .ok configuration ↔
      layers.Makes root configuration := by
  simp only [configurationOf, loadCoverage_eq, loadPaths_eq, loadGit_eq, loadOutput_eq,
    bind_eq_ok_iff, pure, Except.pure, Except.ok.injEq]
  constructor
  · rintro ⟨_, ⟨threshold, hThreshold, kind, hKind, failing, hFailing, rfl⟩,
      _, ⟨modulePath, hModulePath, sourceRoot, hSourceRoot, reportPath, hReportPath, rfl⟩,
      _, ⟨baseRef, hBaseRef, headRef, hHeadRef, repository, hRepository, rfl⟩,
      _, ⟨lines, hLines, output, hOutput, summary, hSummary, rfl⟩, rfl⟩
    exact ⟨rfl, hThreshold, ⟨kind, hKind, rfl⟩, hFailing, ⟨modulePath, hModulePath, rfl⟩,
      ⟨sourceRoot, hSourceRoot, rfl⟩, ⟨reportPath, hReportPath, PathSettings.reportPath_of ..⟩,
      hBaseRef, hHeadRef, hRepository, hLines, hOutput, hSummary, rfl⟩
  · rintro ⟨hRoot, hThreshold, ⟨kind, hKind, hUpper⟩, hFailing, ⟨modulePath, hModulePath, hModule⟩,
      ⟨sourceRoot, hSourceRoot, hSource⟩, ⟨reportPath, hReportPath, hReport⟩, hBaseRef, hHeadRef,
      hRepository, hLines, hOutput, hSummary, hRaw⟩
    refine ⟨configuration.coverage, ⟨_, hThreshold, kind, hKind, _, hFailing, ?_⟩,
      configuration.paths, ⟨modulePath, hModulePath, sourceRoot, hSourceRoot, reportPath,
        hReportPath, ?_⟩,
      configuration.git, ⟨_, hBaseRef, _, hHeadRef, _, hRepository, rfl⟩,
      configuration.output, ⟨_, hLines, _, hOutput, _, hSummary, rfl⟩, ?_⟩
    · rw [← hUpper]
    · exact (PathSettings.eq_of hModule hSource hReport).symm
    · rw [← hRoot, entries, ← hRaw]

/-- What the entries fail with is the first fault of the layers. -/
theorem faultOf?_configurationOf (root : String) :
    faultOf? (configurationOf layers.environment root layers.entries) = layers.fault? := by
  have hGroups : faultOf? (configurationOf layers.environment root layers.entries) =
      (faultOf? (loadCoverage layers.environment layers.entries)).or
        ((faultOf? (loadPaths layers.entries)).or
          ((faultOf? (loadGit layers.environment layers.entries)).or
            (faultOf? (loadOutput layers.entries)))) := by
    refine faultOf?_bind fun _ => faultOf?_three
  rw [hGroups, loadCoverage_eq, loadPaths_eq, loadGit_eq, loadOutput_eq, faultOf?_three,
    faultOf?_three, faultOf?_three, faultOf?_three]
  simp only [fault?, findSome?_cons_eq_or, id_eq, List.findSome?_nil, Option.or_none,
    Option.or_assoc]

end Layers

end PatchCoverage
