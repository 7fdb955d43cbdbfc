import PatchCoverage.Publish.Markdown

namespace PatchCoverage

/-!
# Summary of a workflow step

The summary is a short page in markdown: a heading, the table of scored files
and the average with its verdict, or a notice when nothing was scored.
-/

namespace StepSummary

/-- The heading of the page. -/
def heading : String := "### Coverage of changed files"

/-- The lines above the rows of the table. -/
def tableHead : List String :=
  ["| File | Coverage | Status |", "|---|---:|:---:|"]

/-- The line below the table. -/
def averageLine (threshold average : Binary64) : String :=
  "**Average:** " ++ percentageText average ++ " " ++ verdictGlyph (threshold.le average) ++
    " (threshold " ++ threshold.shortestText ++ "%)"

/-- The lines of the page. -/
def lines (target : LinkTarget) (result : ChangeCoverage) :
    Except ArithmeticError (List String) := do
  match ← result.average with
  | none => .ok [heading, "", "No changed files found."]
  | some average =>
    let rows ← target.tableRows result
    .ok ([heading, ""] ++ tableHead ++ rows ++ ["", averageLine result.threshold average])

/-- The page. -/
def text (target : LinkTarget) (result : ChangeCoverage) : Except ArithmeticError String :=
  (lines target result).map fun lines => "\n".intercalate lines ++ "\n"

end StepSummary

end PatchCoverage
