import PatchCoverage.Config.Load

namespace PatchCoverage

/-!
# Options on top of a configuration

Every option that is given replaces one setting; one that is not given leaves
its setting as it is.  The report's place is derived anew each time: from the
option, else from the configuration file, else from the module.
-/

/-- The options that change a configuration. -/
structure Overrides where
  /-- The branch that the change goes to. -/
  baseRef : Option String := none
  /-- The branch of the change. -/
  headRef : Option String := none
  /-- The repository. -/
  repository : Option String := none
  /-- The coverage report. -/
  reportPath : Option String := none
  /-- The directory of the module. -/
  modulePath : Option String := none
  /-- The source directory inside the module. -/
  sourceRoot : Option String := none
  /-- The least acceptable percentage. -/
  threshold : Option Binary64 := none
  /-- The kind of counter that is scored. -/
  counterKind : Option String := none
  /-- Whether a low average fails the run. -/
  failUnderThreshold : Option Bool := none
  deriving DecidableEq

/-- The report path that the configuration file names, empty if none. -/
def Configuration.namedReportPath (configuration : Configuration) : String :=
  (settingOr (sectionOf configuration.raw "paths") "report_path" (.string "")).text

/-- The configuration with options on top. -/
def Configuration.override (configuration : Configuration) (overrides : Overrides) :
    Configuration :=
  let { coverage, paths, git, .. } := configuration
  { configuration with
    git :=
      { baseRef := overrides.baseRef.getD git.baseRef
        headRef := overrides.headRef.getD git.headRef
        repository := overrides.repository.getD git.repository }
    coverage :=
      { threshold := overrides.threshold.getD coverage.threshold
        counterKind := (overrides.counterKind.map upperCase).getD coverage.counterKind
        failUnderThreshold := overrides.failUnderThreshold.getD coverage.failUnderThreshold }
    paths :=
      .of (overrides.modulePath.getD paths.modulePath)
        (overrides.sourceRoot.getD paths.sourceRoot)
        ((overrides.reportPath.filter fun path => !path.isEmpty).getD
          configuration.namedReportPath) }

end PatchCoverage
