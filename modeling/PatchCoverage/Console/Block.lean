import PatchCoverage.Console.Table
import PatchCoverage.World.Limits

namespace PatchCoverage.Console

/-!
# What is printed on the terminal

Output is a list of blocks, each a message or a table.  A block whose tags are
wrong prints nothing and ends the output, and so does one that the output channel
has no codes for.
-/

/-- A part of the output. -/
inductive Block where
  /-- A message with tags. -/
  | message (text : String)
  /-- A table. -/
  | table (grid : Table)

/-- The lines of a block in a terminal. -/
def Block.lines (terminal : Terminal) : Block → Except MarkupError (List (List Char))
  | .message text =>
    (Markup.plain terminal.emoji text).map (wrap .ragged .fold terminal.columns)
  | .table grid => grid.lines terminal

/-- Why output ended. -/
inductive PrintError where
  /-- A message has a tag that is wrong. -/
  | markup (error : MarkupError)
  /-- The channel has no code for a character. -/
  | encoding
  deriving DecidableEq, Repr

/-- What printing came to. -/
structure Printed where
  /-- What was printed. -/
  text : String
  /-- What ended the output, if anything. -/
  error? : Option PrintError
  deriving DecidableEq, Repr

/-- Prints a text and then the rest. A text that cannot be printed ends the output. -/
def Printed.cons [Limits] (text : String) (rest : Printed) : Printed :=
  if Limits.prints text then { rest with text := text ++ rest.text } else ⟨"", some .encoding⟩

/-- What two parts of the output come to, the second of which is printed unless the
first one ended the output. -/
def Printed.andThen (first second : Printed) : Printed :=
  match first.error? with
  | some _ => first
  | none => { second with text := first.text ++ second.text }

/-- Lines, each with its end. -/
def joinLines (lines : List (List Char)) : String :=
  String.ofList (lines.flatMap fun line => line ++ ['\n'])

/-- Prints blocks in a terminal. -/
def print [Limits] (terminal : Terminal) : List Block → Printed
  | [] => ⟨"", none⟩
  | block :: rest =>
    match block.lines terminal with
    | .error error => ⟨"", some (.markup error)⟩
    | .ok lines => .cons (joinLines lines) (print terminal rest)

/-- Prints texts one after the other as they stand. -/
def printTexts [Limits] : List String → Printed
  | [] => ⟨"", none⟩
  | text :: rest => .cons text (printTexts rest)

/-- A heading with an empty line above and below. -/
def heading (title : String) : Block :=
  .message ("\n[bold cyan]" ++ title ++ "[/bold cyan]\n")

/-- Good news. -/
def success (text : String) : Block :=
  .message ("[green]✓[/green] " ++ text)

/-- Bad news. -/
def failure (text : String) : Block :=
  .message ("[red]✗[/red] " ++ text)

/-- A warning. -/
def warning (text : String) : Block :=
  .message ("[yellow]⚠[/yellow] " ++ text)

/-- A remark. -/
def remark (text : String) : Block :=
  .message ("[dim]" ++ text ++ "[/dim]")

/-- An empty line. -/
def emptyLine : Block :=
  .message ""

end PatchCoverage.Console
