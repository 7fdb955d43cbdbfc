import PatchCoverage.Publish.Markdown
import PatchCoverage.Text.Lines

namespace PatchCoverage

/-!
# Outputs of a workflow step

A step publishes three named values: the average, the number of scored files
and the table.  They are written in two ways.

* As commands, one line each.  A command cannot hold a line's end, so a token
  stands behind every row of the table.
* As a block of the step's output file, one `name=value` a line; the table is
  written with real lines between `name<<delimiter` and `delimiter`.

`StepOutput.readFile?` reads such a file as the runner does.
-/

/-- A named value that a step publishes. -/
structure StepOutput where
  /-- The name of the output. -/
  name : String
  /-- Its value. -/
  value : String
  deriving DecidableEq, Repr

namespace StepOutput

/-- What stands behind every row in a table on one line. -/
def rowEnd : String := "::newline::"

/-- The table on one line. -/
def singleLineTable (rows : List String) : String :=
  String.join (rows.map (· ++ rowEnd))

/-- The outputs of a run, with the table on one line. -/
def ofResult (target : LinkTarget) (result : ChangeCoverage) :
    Except ArithmeticError (List StepOutput) := do
  let overall ← result.overallText
  let rows ← target.tableRows result
  .ok
    [⟨"overall", overall⟩,
      ⟨"changed-files", integerText result.fileCount⟩,
      ⟨"file-coverage", singleLineTable rows⟩]

/-- The command that publishes an output. -/
def command (output : StepOutput) : String :=
  "::set-output name=" ++ output.name ++ "::" ++ output.value

/-- The lines that publish the outputs of a run as commands, the table first on
a line of its own. -/
def commandLines (target : LinkTarget) (result : ChangeCoverage) :
    Except ArithmeticError (List String) := do
  let outputs ← ofResult target result
  let rows ← target.tableRows result
  .ok (("Table results : " ++ singleLineTable rows) :: outputs.map command)

/-- The line that ends the table in an output file. What follows the fixed
beginning tells one block from another. -/
def delimiter (mark : String) : String :=
  "ghadelimiter_" ++ mark

/-- The lines of a block of the output file. -/
def blockLines (mark : String) (target : LinkTarget) (result : ChangeCoverage) :
    Except ArithmeticError (List String) := do
  let rows ← target.tableRows result
  let overall ← result.overallText
  .ok
    ["overall=" ++ overall,
      "changed-files=" ++ integerText result.fileCount,
      "file-coverage<<" ++ delimiter mark,
      "\n".intercalate rows,
      delimiter mark]

/-- The block of the output file. -/
def block (mark : String) (target : LinkTarget) (result : ChangeCoverage) :
    Except ArithmeticError String :=
  (blockLines mark target result).map fun lines => "\n".intercalate lines ++ "\n"

/-- What a line of an output file begins. -/
inductive Line where
  /-- A complete output. -/
  | output (name value : List Char)
  /-- The first line of a value of several lines, which ends at `closing`. -/
  | opening (name closing : List Char)
  /-- Neither. -/
  | unreadable

/-- Reads a line: the earlier of `=` and `<<` decides. -/
def readLine (name : List Char) : List Char → Line
  | [] => .unreadable
  | '=' :: rest => .output name.reverse rest
  | '<' :: '<' :: rest => .opening name.reverse rest
  | c :: rest => readLine (c :: name) rest

/-- What reading has come to: the value of several lines that is being read,
with its name, its end and its lines so far, last first. -/
structure OpenValue where
  /-- The name of the output. -/
  name : List Char
  /-- The line that ends the value. -/
  closing : List Char
  /-- The lines of the value so far, last first. -/
  lines : List (List Char)

/-- A value of several lines. -/
def joinLines (lines : List (List Char)) : List Char :=
  List.intercalate ['\n'] lines

/-- Reads lines; `none` when one is unreadable or a value has no end. -/
def readLines? : Option OpenValue → List (List Char) → Option (List StepOutput)
  | none, [] => some []
  | some _, [] => none
  | none, line :: rest =>
    match readLine [] line with
    | .output name value =>
      (readLines? none rest).map (⟨String.ofList name, String.ofList value⟩ :: ·)
    | .opening name closing => readLines? (some ⟨name, closing, []⟩) rest
    | .unreadable => none
  | some value, line :: rest =>
    if line = value.closing then
      (readLines? none rest).map
        (⟨String.ofList value.name, String.ofList (joinLines value.lines.reverse)⟩ :: ·)
    else
      readLines? (some { value with lines := line :: value.lines }) rest

/-- Reads an output file, each line of which ends with a line feed. -/
def readFile? (text : String) : Option (List StepOutput) :=
  let lines := piecesBetween '\n' text.toList
  if lines.getLast? = some [] then readLines? none lines.dropLast else none

end StepOutput

end PatchCoverage
