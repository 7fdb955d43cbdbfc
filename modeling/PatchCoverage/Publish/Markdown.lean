import PatchCoverage.Number.Decimal
import PatchCoverage.Scoring.Basic

namespace PatchCoverage

/-!
# Rows of a coverage table

Every published output shows a percentage with two places and a verdict as a
check mark or a cross.  A row of the table names the file, as a link to its
page when both the repository and the branch are known.
-/

/-- A percentage as every output shows it. -/
def percentageText (percentage : Binary64) : String :=
  percentage.fixedText ++ "%"

/-- A verdict as every output shows it. -/
def verdictGlyph (passed : Bool) : String :=
  if passed then "✅" else "❌"

/-- Where the files of a change can be looked at. -/
structure LinkTarget where
  /-- The repository as `owner/name`; without one there are no links. -/
  repository : String
  /-- The branch of the change; without one there are no links. -/
  headRef : String

/-- The page of a file, if the repository and the branch are known. -/
def LinkTarget.fileUrl? (target : LinkTarget) (path : String) : Option String :=
  if target.repository.isEmpty || target.headRef.isEmpty then none
  else
    some
      ("https://github.com/" ++ target.repository ++ "/blob/" ++ target.headRef ++ "/" ++ path)

/-- The first cell of a row: the file's name, as a link where there is a page. -/
def LinkTarget.fileCell (target : LinkTarget) (file : ScoredFile) : String :=
  match target.fileUrl? file.path with
  | none => file.sourceName
  | some url => "[" ++ file.sourceName ++ "](" ++ url ++ ")"

/-- The row of a scored file. -/
def LinkTarget.tableRow (target : LinkTarget) (file : ScoredFile) : Except ArithmeticError String :=
  file.percentage.map fun percentage =>
    "| " ++ target.fileCell file ++ " | " ++ percentageText percentage ++ " | " ++
      verdictGlyph file.meetsThreshold ++ " |"

/-- The rows of all scored files, in order. -/
def LinkTarget.tableRows (target : LinkTarget) (result : ChangeCoverage) :
    Except ArithmeticError (List String) :=
  result.entries.mapM target.tableRow

/-- The average as outputs show it, zero when nothing was scored. -/
def ChangeCoverage.overallText (result : ChangeCoverage) : Except ArithmeticError String :=
  result.average.map fun average => percentageText (average.getD Binary64.zero)

end PatchCoverage
