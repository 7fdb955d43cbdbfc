import PatchCoverage.Config.Basic
import PatchCoverage.Config.Placeholder
import PatchCoverage.Config.Provider
import PatchCoverage.Config.Setting
import PatchCoverage.Text.Lines
import PatchCoverage.Text.Utf8
import PatchCoverage.World.Basic
import PatchCoverage.World.Limits
import PatchCoverage.Yaml.Document

namespace PatchCoverage

/-!
# Loading the configuration of a repository

A configuration comes from four layers: defaults, the file `.diffcov.yml`, the
placeholders in it, and the environment.  What is missing or of the wrong shape
in the file counts as empty.  The variable `DIFFCOV_THRESHOLD` goes before the
file; refs and repository are looked for in the file first and then in the
variables of the service that the run belongs to.
-/

/-- Why a configuration cannot be loaded. -/
inductive LoadError where
  /-- The file cannot be used. -/
  | file (problem : FileProblem)
  /-- The file is not text. -/
  | undecodable (fault : Utf8Fault)
  /-- The file is no document; `wording` is what its reader says of it. -/
  | document (fault : Yaml.Fault) (wording : String)
  /-- The file is nested more deeply than its reader can follow. -/
  | tooDeep
  /-- A setting cannot be read. -/
  | setting (error : SettingError)
  /-- A mapping contains itself. -/
  | endless
  deriving DecidableEq, Repr

/-- The wording of an error that commands answer for. Errors without one end
the program. -/
def LoadError.message? : LoadError → Option String
  | file .zeroCharacter => some (FileProblem.zeroCharacter.describe "")
  | file _ => none
  | undecodable fault => some fault.message
  | document .malformed wording => some wording
  | document fault _ => fault.message?
  | tooDeep => none
  | setting error => error.message?
  | endless => none

/-- An attempt to load a configuration. -/
structure LoadRun where
  /-- The warnings in order. -/
  warnings : List String
  /-- The configuration. -/
  outcome : Except LoadError Configuration

/-- The name of the configuration file. -/
def configurationFileName : String := ".diffcov.yml"

/-- A group of settings; what is no mapping counts as empty. -/
def sectionOf (raw : List (Yaml.Value × Yaml.Value)) (name : String) :
    List (Yaml.Value × Yaml.Value) :=
  match Yaml.Value.entry? name raw with
  | some (.mapping entries) => entries
  | _ => []

/-- A setting of a group, or a default. -/
def settingOr (entries : List (Yaml.Value × Yaml.Value)) (name : String) (default : Yaml.Value) :
    Yaml.Value :=
  (Yaml.Value.entry? name entries).getD default

/-- The threshold of the environment, else of the file, else the default. -/
def loadThreshold (environment : Environment) (entries : List (Yaml.Value × Yaml.Value)) :
    Except SettingError Binary64 :=
  match environment.nonempty? "DIFFCOV_THRESHOLD" with
  | some text => Setting.number "DIFFCOV_THRESHOLD" (.string text)
  | none =>
    Setting.number "coverage.threshold"
      (settingOr entries "threshold" (.number CoverageSettings.defaultThreshold))

/-- The settings of the group `coverage`. -/
def loadCoverage (environment : Environment) (raw : List (Yaml.Value × Yaml.Value)) :
    Except SettingError CoverageSettings := do
  let entries := sectionOf raw "coverage"
  let threshold ← loadThreshold environment entries
  let counterKind ← Setting.text
    (settingOr entries "counter_type" (.string CoverageSettings.defaultCounterKind))
  let failUnderThreshold ← Setting.truth "coverage.fail_under_threshold"
    (settingOr entries "fail_under_threshold" (.bool true))
  pure ⟨threshold, upperCase counterKind, failUnderThreshold⟩

/-- The settings of the group `paths`. -/
def loadPaths (raw : List (Yaml.Value × Yaml.Value)) : Except SettingError PathSettings := do
  let entries := sectionOf raw "paths"
  let modulePath ← Setting.text
    (settingOr entries "module_path" (.string PathSettings.defaultModulePath))
  let sourceRoot ← Setting.text
    (settingOr entries "source_root" (.string PathSettings.defaultSourceRoot))
  let reportPath ← Setting.text (settingOr entries "report_path" (.string ""))
  pure (.of modulePath sourceRoot reportPath)

/-- A value of the file that counts as given, as a text, else the fallback. -/
def givenText (entries : List (Yaml.Value × Yaml.Value)) (name : String)
    (fallback : Option String) : Except SettingError String :=
  match (Yaml.Value.entry? name entries).filter Yaml.Value.isGiven with
  | some value => Setting.text value
  | none => .ok (fallback.getD "")

/-- The settings of the group `git`. -/
def loadGit (environment : Environment) (raw : List (Yaml.Value × Yaml.Value)) :
    Except SettingError GitSettings := do
  let entries := sectionOf raw "git"
  let context := environment.jobContext
  let baseRef ← givenText entries "base_ref" context.baseRef
  let headRef ← givenText entries "head_ref" context.headRef
  let repository ← givenText entries "repository" context.repository
  pure ⟨baseRef, headRef, repository⟩

/-- The settings of the group `output`. -/
def loadOutput (raw : List (Yaml.Value × Yaml.Value)) : Except SettingError OutputSettings := do
  let entries := sectionOf raw "output"
  let read (name : String) :=
    Setting.truth ("output." ++ name) (settingOr entries name (.bool true))
  let setOutputLines ← read "set_output_lines"
  let githubOutput ← read "github_output"
  let stepSummary ← read "step_summary"
  pure ⟨setOutputLines, githubOutput, stepSummary⟩

/-- The configuration that expanded entries of the file and the environment
make up. -/
def configurationOf (environment : Environment) (root : String)
    (raw : List (Yaml.Value × Yaml.Value)) : Except SettingError Configuration := do
  let coverage ← loadCoverage environment raw
  let paths ← loadPaths raw
  let git ← loadGit environment raw
  let output ← loadOutput raw
  pure ⟨root, coverage, paths, git, output, raw⟩

/-- The text of a file, with every line end as one line feed. -/
def decodeText (octets : List UInt8) : Except Utf8Fault String :=
  (decodeUtf8 octets).map fun text => String.ofList (unifyNewlines text.toList)

namespace World

/-- The document in the configuration file of a directory; without a file
there is none. -/
def configurationDocument [Limits] (world : World) (root : PathName) :
    Except LoadError Yaml.Value := do
  let name := root.join (PathName.ofText configurationFileName)
  let isFile ← (world.isFile name).mapError .file
  if isFile then
    let octets ← (world.read name).mapError .file
    let text ← (decodeText octets).mapError .undecodable
    if Limits.isTooDeep text then throw .tooDeep
    (Yaml.read text).mapError fun fault => .document fault (world.documentWording text)
  else
    pure .null

/-- The entries of a document; what is no mapping has none. -/
def entriesOf : Yaml.Value → List (Yaml.Value × Yaml.Value)
  | .mapping entries => entries
  | _ => []

/-- Loads the configuration of a directory. -/
def loadConfiguration [Limits] (world : World) (directory : PathName) : LoadRun :=
  let root := world.resolve directory
  let document :=
    if directory.hasZero then .error (.file .zeroCharacter)
    else world.configurationDocument root
  match document with
  | .error error => ⟨[], .error error⟩
  | .ok document =>
    let entries := entriesOf document
    if Yaml.Value.entriesEndless entries then
      ⟨[], .error .endless⟩
    else
      { warnings := Yaml.Value.entryWarnings world.environment entries
        outcome :=
          (configurationOf world.environment root.toText
            (Yaml.Value.expandEntries world.environment entries)).mapError .setting }

end World

end PatchCoverage
