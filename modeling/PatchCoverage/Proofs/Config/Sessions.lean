import PatchCoverage.Config.Validation
import PatchCoverage.Proofs.Config.Override

namespace PatchCoverage

/-!
# Path settings over whole sessions

A session loads configurations, puts them together from settings and puts options on
top of them, in any order and with any arguments.  Every step that touches the path
settings makes them anew with `PathSettings.of`, from whatever texts it has; so they
are always made by it, and `PathSettings.isFormed_iff` says which settings are.  Those
settings are fixed by being made again, which is what options on top of options do.

The main statement is `paths_of_session`.
-/

/-! ## Settings that are made from texts -/

namespace PathSettings

variable {paths : PathSettings}

/-- Path settings are made from some texts. -/
def IsFormed (paths : PathSettings) : Prop :=
  ∃ modulePath sourceRoot reportPath, paths = .of modulePath sourceRoot reportPath

theorem isFormed_of (modulePath sourceRoot reportPath : String) :
    (PathSettings.of modulePath sourceRoot reportPath).IsFormed :=
  ⟨modulePath, sourceRoot, reportPath, rfl⟩

/-- The report's place in a module is never the empty path. -/
theorem append_reportSuffix_ne_empty (modulePath : String) : modulePath ++ reportSuffix ≠ "" := by
  intro hEmpty
  have hSuffix : reportSuffix = "" := (String.append_eq_empty_iff.mp hEmpty).2
  exact absurd hSuffix (by decide)

theorem reportPath_of_ne_empty (modulePath sourceRoot reportPath : String) :
    (PathSettings.of modulePath sourceRoot reportPath).reportPath ≠ "" := by
  rw [reportPath_of]
  split
  · exact append_reportSuffix_ne_empty _
  · assumption

/-- Settings in their kept form are made again from their own texts. -/
theorem of_self (hKept : paths.IsKept) (hReport : paths.reportPath ≠ "") :
    PathSettings.of paths.modulePath paths.sourceRoot paths.reportPath = paths := by
  symm
  apply eq_of
  · exact (normalizeDirectory_of_isDirectory hKept.modulePath).symm
  · exact (normalizeDirectory_of_isDirectory hKept.sourceRoot).symm
  · rw [if_neg hReport]

/-- The settings that are made from texts are those in their kept form that have a
report path. -/
theorem isFormed_iff : paths.IsFormed ↔ paths.IsKept ∧ paths.reportPath ≠ "" := by
  constructor
  · rintro ⟨modulePath, sourceRoot, reportPath, rfl⟩
    exact ⟨isKept_of _ _ _, reportPath_of_ne_empty _ _ _⟩
  · rintro ⟨hKept, hReport⟩
    exact ⟨_, _, _, (of_self hKept hReport).symm⟩

end PathSettings

/-! ## Sessions -/

namespace Configuration

/-- Options are refused where the report path is taken from the configuration file and
cannot be written as a text. -/
def refuses (configuration : Configuration) (overrides : Overrides) : Bool :=
  overrides.givenReportPath?.isNone && !(reportPathValue configuration.raw).isWritable

/-- A configuration after options were put on top of it.  Options that are refused have
by then changed everything but the paths. -/
def afterOptions (configuration : Configuration) (overrides : Overrides) : Configuration :=
  if configuration.refuses overrides then
    { configuration.override overrides with paths := configuration.paths }
  else
    configuration.override overrides

end Configuration

/-- A step of a session. -/
inductive SessionStep where
  /-- Loads the configuration of a directory. -/
  | load (world : World) (directory : PathName)
  /-- Puts a configuration together. -/
  | construct (root : String) (coverage : CoverageSettings)
      (modulePath sourceRoot reportPath : String) (git : GitSettings) (output : OutputSettings)
      (raw : List (Yaml.Value × Yaml.Value))
  /-- Puts options on top of the configuration. -/
  | override (overrides : Overrides)

namespace SessionStep

/-- The configuration after a step, if there is one by then; a step that fails makes
none. -/
def next [Limits] (current? : Option Configuration) : SessionStep → Option Configuration
  | load world directory =>
    match (world.loadConfiguration directory).outcome with
    | .ok configuration => some configuration
    | .error _ => current?
  | construct root coverage modulePath sourceRoot reportPath git output raw =>
    some ⟨root, coverage, .of modulePath sourceRoot reportPath, git, output, raw⟩
  | override overrides => current?.map fun configuration => configuration.afterOptions overrides

/-- The configuration that a session comes to from another one. -/
def session [Limits] (start? : Option Configuration) (steps : List SessionStep) :
    Option Configuration :=
  steps.foldl next start?

end SessionStep

/-- The path settings of a configuration, if there is one, are made from texts. -/
def HasFormedPaths (current? : Option Configuration) : Prop :=
  ∀ configuration, current? = some configuration → configuration.paths.IsFormed

namespace Configuration

variable {configuration : Configuration}

theorem isFormed_of_loaded [Limits] {world : World} {directory : PathName}
    (hLoaded : (world.loadConfiguration directory).outcome = .ok configuration) :
    configuration.paths.IsFormed := by
  apply PathSettings.isFormed_iff.mpr
  refine ⟨isKept_of_loaded hLoaded, ?_⟩
  rw [settled_of_loaded hLoaded, settledReportPath]
  split
  · exact PathSettings.append_reportSuffix_ne_empty _
  · assumption

/-- Options leave the paths alone or make them anew. -/
theorem isFormed_afterOptions (h : configuration.paths.IsFormed) (overrides : Overrides) :
    (configuration.afterOptions overrides).paths.IsFormed := by
  unfold afterOptions
  split
  · exact h
  · exact PathSettings.isFormed_of _ _ _

/-- The report path is missed exactly where there is none. -/
theorem noReportPath_mem_problems_iff (configuration : Configuration) (refsNeeded : Bool) :
    .noReportPath ∈ configuration.problems refsNeeded ↔ configuration.paths.reportPath = "" := by
  simp [problems]

end Configuration

namespace SessionStep

variable {current? : Option Configuration}

/-- Each kind of step keeps the paths made from texts. -/
theorem hasFormedPaths_next [Limits] (h : HasFormedPaths current?) (step : SessionStep) :
    HasFormedPaths (step.next current?) := by
  intro configuration hNext
  cases step with
  | load world directory =>
      unfold next at hNext
      dsimp only at hNext
      split at hNext
      · next loaded hLoaded =>
        obtain rfl := Option.some.inj hNext
        exact Configuration.isFormed_of_loaded hLoaded
      · exact h configuration hNext
  | construct root coverage modulePath sourceRoot reportPath git output raw =>
      obtain rfl := Option.some.inj hNext
      exact PathSettings.isFormed_of modulePath sourceRoot reportPath
  | override overrides =>
      obtain ⟨before, hBefore, rfl⟩ := Option.map_eq_some_iff.mp hNext
      exact Configuration.isFormed_afterOptions (h before hBefore) overrides

/-- So does a session. -/
theorem hasFormedPaths_session [Limits] (h : HasFormedPaths current?) (steps : List SessionStep) :
    HasFormedPaths (session current? steps) := by
  induction steps generalizing current? with
  | nil => exact h
  | cons step steps ih => exact ih (hasFormedPaths_next h step)

end SessionStep

/-- Whatever a session comes to, from no configuration on, has its directories in their
kept form and a report path; its paths are those made again from its own texts, and no
check misses the report path. -/
theorem paths_of_session [Limits] (steps : List SessionStep) {configuration : Configuration}
    (h : SessionStep.session none steps = some configuration) :
    let paths := configuration.paths
    IsDirectory paths.modulePath ∧ IsDirectory paths.sourceRoot ∧ paths.reportPath ≠ "" ∧
      PathSettings.of paths.modulePath paths.sourceRoot paths.reportPath = paths ∧
      ∀ refsNeeded, .noReportPath ∉ configuration.problems refsNeeded := by
  intro paths
  have hStart : HasFormedPaths none := by
    intro _ hNone
    cases hNone
  have hFormed : paths.IsFormed := SessionStep.hasFormedPaths_session hStart steps configuration h
  obtain ⟨hKept, hReport⟩ := PathSettings.isFormed_iff.mp hFormed
  refine ⟨hKept.modulePath, hKept.sourceRoot, hReport, PathSettings.of_self hKept hReport, ?_⟩
  intro refsNeeded hMissed
  exact hReport ((configuration.noReportPath_mem_problems_iff refsNeeded).mp hMissed)

/-- A session with blanks and slashes for directories, and with an integer for the report
path that is too long to be written, so that the last options are refused. -/
def sessionOfSlashes : List SessionStep :=
  [.override { modulePath := some "a" },
    .construct "" .standard " // / /" "  " "" ⟨"", "", ""⟩ .standard
      [(.string "paths", .mapping [(.string "report_path", .integer (10 ^ 4300))])],
    .override { modulePath := some " //\t", reportPath := some "r" },
    .override { modulePath := some "b" }]

/-- That session comes to one slash, and to a report path all the same. -/
theorem paths_of_sessionOfSlashes :
    ∃ configuration, SessionStep.session none sessionOfSlashes = some configuration ∧
      configuration.paths = ⟨"/", "", "r"⟩ ∧
      IsDirectory configuration.paths.modulePath ∧ configuration.paths.reportPath ≠ "" := by
  obtain ⟨configuration, hSession, hPaths⟩ := Option.map_eq_some_iff.mp (by decide +kernel :
    (SessionStep.session none sessionOfSlashes).map Configuration.paths = some ⟨"/", "", "r"⟩)
  obtain ⟨hModulePath, -, hReport, -⟩ := paths_of_session sessionOfSlashes hSession
  exact ⟨configuration, hSession, hPaths, hModulePath, hReport⟩

end PatchCoverage
