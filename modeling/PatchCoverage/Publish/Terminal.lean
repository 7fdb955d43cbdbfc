import PatchCoverage.Console.Block
import PatchCoverage.Publish.Markdown

namespace PatchCoverage

/-!
# The report on the terminal

The report has three parts: the changed files, a table of the scored files, and
the average with its verdict.
-/

namespace TerminalReport

open Console

/-- The changed files. -/
def changedFiles (files : List String) : List Block :=
  heading ("Changed files (" ++ integerText files.length ++ ")") ::
    if files.isEmpty then [remark "git reported no changed files"]
    else files.map fun path => .message ("  " ++ Markup.escape path)

/-- The row of a scored file in the table. -/
def tableRow (file : ScoredFile) : Except ArithmeticError (List String) :=
  file.percentage.map fun percentage =>
    let colour := if file.meetsThreshold then "green" else "red"
    [Markup.escape file.path,
      "[" ++ colour ++ "]" ++ percentageText percentage ++ "[/" ++ colour ++ "]",
      verdictGlyph file.meetsThreshold]

/-- The columns of the table. -/
def tableColumns : List Column :=
  [⟨"File", .left⟩, ⟨"Coverage", .right⟩, ⟨"Status", .centre⟩]

/-- The table of scored files, if there are any. -/
def fileCoverage (result : ChangeCoverage) : Except ArithmeticError (List Block) := do
  let rows ← result.entries.mapM tableRow
  pure <|
    if rows.isEmpty then []
    else [emptyLine, .table ⟨"Coverage of changed files", tableColumns, rows⟩]

/-- The verdict on an average. -/
def verdict (threshold average : Binary64) : Block :=
  if average.lt threshold then
    .message
      ("[bold red]ERROR:[/bold red] Coverage for changed files (" ++ percentageText average ++
        ") is below the threshold of " ++ threshold.shortestText ++ "%")
  else
    success ("Coverage meets the threshold of " ++ threshold.shortestText ++ "%")

/-- The files that were skipped, and the average with its verdict. -/
def summary (result : ChangeCoverage) : Except ArithmeticError (List Block) := do
  let skipped := result.skipped.map fun path =>
    warning ("Warning: No line coverage found for " ++ Markup.escape path)
  match ← result.average with
  | none => pure (skipped ++ [.message "\nNo changed files found."])
  | some average =>
    pure <| skipped ++
      [.message
        ("\nAverage coverage for changed files: [bold]" ++ percentageText average ++ "[/bold]"),
        verdict result.threshold average]

/-- The whole report. -/
def blocks (result : ChangeCoverage) : Except ArithmeticError (List Block) := do
  let table ← fileCoverage result
  let summary ← summary result
  pure (changedFiles result.changedFiles ++ table ++ summary)

end TerminalReport

end PatchCoverage
