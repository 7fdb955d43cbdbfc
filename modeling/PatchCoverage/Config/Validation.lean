import PatchCoverage.Config.Basic
import PatchCoverage.Number.Decimal

namespace PatchCoverage

/-!
# Checking a configuration

A configuration that can be loaded may still be of no use.  All that is wrong
is found and reported in a fixed order.
-/

/-- What is wrong with a configuration. -/
inductive ConfigurationProblem where
  /-- There is no directory. -/
  | noRoot
  /-- There is no report. -/
  | noReportPath
  /-- The threshold is no percentage. -/
  | threshold (value : Binary64)
  /-- Reports have no such counter. -/
  | counterKind (kind : String)
  /-- The branch that the change goes to is not known. -/
  | noBaseRef
  /-- The branch of the change is not known. -/
  | noHeadRef
  deriving DecidableEq

/-- The wording of a problem. -/
def ConfigurationProblem.message : ConfigurationProblem → String
  | noRoot => "root is required"
  | noReportPath => "paths.report_path is required"
  | threshold value =>
    "coverage.threshold must be between 0 and 100 (got: " ++ value.shortestText ++ ")"
  | counterKind kind =>
    "coverage.counter_type must be one of " ++ ", ".intercalate Report.counterKinds ++
      " (got: " ++ kind ++ ")"
  | noBaseRef => "git.base_ref is required (set GITHUB_BASE_REF or pass --base-ref)"
  | noHeadRef => "git.head_ref is required (set GITHUB_HEAD_REF or pass --head-ref)"

/-- Whether a number is a percentage of a whole. -/
def isPercentage (value : Binary64) : Bool :=
  Binary64.zero.le value && value.le Binary64.hundred

/-- All that is wrong with a configuration; refs are only missed where they
are needed. -/
def Configuration.problems (configuration : Configuration) (refsNeeded : Bool) :
    List ConfigurationProblem :=
  let { root, coverage, paths, git, .. } := configuration
  [(root.isEmpty, .noRoot),
    (paths.reportPath.isEmpty, .noReportPath),
    (!isPercentage coverage.threshold, .threshold coverage.threshold),
    (!Report.counterKinds.contains coverage.counterKind, .counterKind coverage.counterKind),
    (refsNeeded && git.baseRef.isEmpty, .noBaseRef),
    (refsNeeded && git.headRef.isEmpty, .noHeadRef)].filterMap
      fun ((present : Bool), problem) => if present then some problem else none

end PatchCoverage
