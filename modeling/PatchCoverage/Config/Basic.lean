import PatchCoverage.Report.Basic
import PatchCoverage.Scoring.Analysis
import PatchCoverage.Text.Blank
import PatchCoverage.World.PathName
import PatchCoverage.Yaml.Value

namespace PatchCoverage

/-!
# The configuration of a run

Five groups of settings: where the repository is, what counts as covered
enough, where sources and the report are, which commits are compared, and
which outputs are published.

Directories are kept in one form: without blanks around them, and empty or
with exactly one slash at the end.  `PathSettings.of` is how path settings are
made; it also derives the report's place from the module's where none is given.
-/

/-- Which coverage is asked for. -/
structure CoverageSettings where
  /-- The least acceptable percentage. -/
  threshold : Binary64
  /-- The kind of counter that is scored. -/
  counterKind : String
  /-- Whether a low average fails the run. -/
  failUnderThreshold : Bool
  deriving DecidableEq

/-- Where sources and the report are, relative to the repository. -/
structure PathSettings where
  /-- The directory of the module. -/
  modulePath : String
  /-- The source directory inside the module. -/
  sourceRoot : String
  /-- The coverage report. -/
  reportPath : String
  deriving DecidableEq, Repr

/-- Which commits are compared, and where. -/
structure GitSettings where
  /-- The branch that the change goes to. -/
  baseRef : String
  /-- The branch of the change. -/
  headRef : String
  /-- The repository as `owner/name`. -/
  repository : String
  deriving DecidableEq, Repr

/-- Which outputs are published. -/
structure OutputSettings where
  /-- Print workflow commands. -/
  setOutputLines : Bool
  /-- Append to the step's output file. -/
  githubOutput : Bool
  /-- Append to the step's summary. -/
  stepSummary : Bool
  deriving DecidableEq, Repr

/-- The configuration of a run. -/
structure Configuration where
  /-- The directory of the repository. -/
  root : String
  /-- Which coverage is asked for. -/
  coverage : CoverageSettings
  /-- Where sources and the report are. -/
  paths : PathSettings
  /-- Which commits are compared. -/
  git : GitSettings
  /-- Which outputs are published. -/
  output : OutputSettings
  /-- The entries of the configuration file, with placeholders expanded. -/
  raw : List (Yaml.Value × Yaml.Value)

/-- A directory without blanks around it, and with one slash at its end unless
it is empty. -/
def normalizeDirectory (path : String) : String :=
  let characters := trimBoth isBlank path.toList
  if characters.isEmpty then ""
  else String.ofList (trimEnd (· == '/') characters ++ ['/'])

/-- The threshold where none is given: fifty per cent. -/
def CoverageSettings.defaultThreshold : Binary64 := .ofNat 50

/-- The kind of counter where none is given. -/
def CoverageSettings.defaultCounterKind : String := "INSTRUCTION"

/-- The coverage that is asked for where nothing is given. -/
def CoverageSettings.standard : CoverageSettings :=
  ⟨defaultThreshold, defaultCounterKind, true⟩

/-- The module where none is given. -/
def PathSettings.defaultModulePath : String := "common/artifact-manager/"

/-- The source directory where none is given. -/
def PathSettings.defaultSourceRoot : String := "src/main/java/"

/-- Where the report of a module is. -/
def PathSettings.reportSuffix : String := "target/site/jacoco/jacoco.xml"

/-- Path settings in their kept form; an empty report path stands for the
module's own report. -/
def PathSettings.of (modulePath sourceRoot reportPath : String) : PathSettings :=
  let module := normalizeDirectory modulePath
  { modulePath := module
    sourceRoot := normalizeDirectory sourceRoot
    reportPath := if reportPath.isEmpty then module ++ reportSuffix else reportPath }

/-- The paths where nothing is given. -/
def PathSettings.standard : PathSettings :=
  .of defaultModulePath defaultSourceRoot ""

/-- The outputs where nothing is given: all of them. -/
def OutputSettings.standard : OutputSettings :=
  ⟨true, true, true⟩

/-- The configuration of a repository for which nothing is given. -/
def Configuration.standard (root : String) : Configuration :=
  ⟨root, .standard, .standard, ⟨"", "", ""⟩, .standard, []⟩

/-- The name of the report's file. -/
def Configuration.reportFile (configuration : Configuration) : PathName :=
  (PathName.ofText configuration.root).join (PathName.ofText configuration.paths.reportPath)

/-- What scoring is based on. -/
def Configuration.scoringRules (configuration : Configuration) : ScoringRules :=
  ⟨configuration.paths.modulePath, configuration.paths.sourceRoot,
    configuration.coverage.counterKind, configuration.coverage.threshold⟩

end PatchCoverage
