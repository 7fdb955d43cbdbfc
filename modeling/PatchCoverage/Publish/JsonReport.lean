import PatchCoverage.Json.Printer
import PatchCoverage.Number.Literal
import PatchCoverage.Publish.Markdown

namespace PatchCoverage

/-!
# The report as a JSON document

The outcome of a run for other programs: the average and every percentage
rounded to two places, all counts, and the verdicts.
-/

/-- Why a run has no JSON report. -/
inductive JsonReportError where
  /-- A percentage does not exist. -/
  | arithmetic (error : ArithmeticError)
  /-- An integer has more digits than may be written. -/
  | integerTooLong
  deriving DecidableEq, Repr

namespace JsonReport

/-- A scored file as an object. -/
def fileObject (target : LinkTarget) (file : ScoredFile) : Except ArithmeticError Json :=
  file.percentage.map fun percentage =>
    .object
      [("path", .string file.path),
        ("className", .string file.className),
        ("missed", .integer file.missed),
        ("covered", .integer file.covered),
        ("coverage", .number percentage.roundedToHundredths),
        ("meetsThreshold", .bool file.meetsThreshold),
        ("url", ((target.fileUrl? file.path).map Json.string).getD .null)]

/-- The average of a run, rounded, or the missing value. -/
def overall (average : Option Binary64) : Json :=
  (average.map fun average => Json.number average.roundedToHundredths).getD .null

/-- The document. -/
def document (target : LinkTarget) (result : ChangeCoverage) : Except ArithmeticError Json := do
  let average ← result.average
  let files ← result.entries.mapM (fileObject target)
  .ok <| .object
    [("overall", overall average),
      ("changedFiles", .integer result.fileCount),
      ("threshold", .number result.threshold),
      ("passed", .bool (ChangeCoverage.averageMeets result.threshold average)),
      ("files", .array files),
      ("skipped", .array (result.skipped.map Json.string)),
      ("diff", .array (result.changedFiles.map Json.string))]

/-- Whether the counts of all scored files can be written. -/
def countsFit (result : ChangeCoverage) : Bool :=
  result.entries.all fun file => integerFits file.missed && integerFits file.covered

/-- The text of the document. -/
def text (target : LinkTarget) (result : ChangeCoverage) : Except JsonReportError String :=
  match document target result with
  | .error error => .error (.arithmetic error)
  | .ok document =>
    if countsFit result then .ok (document.text .unicode) else .error .integerTooLong

end JsonReport

end PatchCoverage
