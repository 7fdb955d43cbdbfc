import PatchCoverage.Config.Load
import PatchCoverage.Config.Validation
import PatchCoverage.Console.Block
import PatchCoverage.Publish.Files
import PatchCoverage.Publish.JsonReport
import PatchCoverage.Report.FromXml

namespace PatchCoverage.CommandLine

/-!
# How a command ends

A command prints on two channels and ends with an exit status, or with an error
that no part of the program answers for.  The parts of a command follow each
other until one of them ends it.

A reply has what the program itself prints, as it prints it.  Three things that
happen to that are not part of it: a channel that is no terminal is rid of the
control sequences for colours, should a quoted text have any; the error channel
shows what it has no code for in an escaped form; and the interpreter adds a trace
of its own to a run that ends with an error that no part answers for.
-/

/-- An error that no part of the program answers for. -/
inductive Uncaught where
  /-- The configuration cannot be loaded. -/
  | load (error : LoadError)
  /-- The list of changed files cannot be made. -/
  | diff (error : DiffError)
  /-- A given list of changed files is not text. -/
  | changeList (fault : Utf8Fault)
  /-- A file cannot be used. -/
  | file (problem : FileProblem)
  /-- There is no report. -/
  | report (error : ReportError)
  /-- A percentage does not exist. -/
  | arithmetic (error : ArithmeticError)
  /-- There is no report in JSON. -/
  | json (error : JsonReportError)
  /-- A file of the step was not written. -/
  | write (error : WriteError)
  /-- A message has a tag that is wrong. -/
  | markup (error : Console.MarkupError)
  /-- The output channel has no code for a character. -/
  | encoding
  deriving DecidableEq, Repr

/-- The error of a run whose output ended. -/
def Uncaught.ofPrint : Console.PrintError → Uncaught
  | .markup error => markup error
  | .encoding => encoding

/-- How a command ends. -/
inductive Ending where
  /-- With an exit status. -/
  | exit (status : Nat)
  /-- With an error. -/
  | uncaught (error : Uncaught)
  deriving DecidableEq, Repr

/-- The exit status of an ending. -/
def Ending.status : Ending → Nat
  | exit status => status
  | uncaught _ => 1

/-- What a command prints and how it ends. -/
structure Reply where
  /-- What it prints on the output channel. -/
  printed : String
  /-- What it prints on the error channel. -/
  complaint : String
  /-- How it ends. -/
  ending : Ending
  deriving DecidableEq, Repr

/-- The exit status of a run that was given up, failed, or fell below its
threshold. -/
def failureStatus : Nat := 1

/-- The exit status of a run with wrong arguments or a wrong configuration. -/
def usageStatus : Nat := 2

/-- Complains and ends as given after what was printed, or with the error that
ended the printing. -/
def Reply.ofPrinted (printed : Console.Printed) (complaint : String) (ending : Ending) : Reply :=
  match printed.error? with
  | some error => ⟨printed.text, "", .uncaught (.ofPrint error)⟩
  | none => ⟨printed.text, complaint, ending⟩

/-- Prints blocks. -/
def Reply.ofBlocks [Limits] (terminal : Console.Terminal) (blocks : List Console.Block)
    (complaint : String) (ending : Ending) : Reply :=
  .ofPrinted (Console.print terminal blocks) complaint ending

/-- Prints a text. -/
def Reply.ofText [Limits] (text : String) (ending : Ending) : Reply :=
  .ofPrinted (Console.printTexts [text]) "" ending

/-- Ends with an error, which is reported if it has a wording. -/
def Reply.ofError (message? : Option String) (uncaught : Uncaught) : Reply :=
  match message? with
  | some message => ⟨"", "Error: " ++ message ++ "\n", .exit failureStatus⟩
  | none => ⟨"", "", .uncaught uncaught⟩

/-- What a run that is given up says last. -/
def abortedText : String := "Aborted!\n"

/-- The reply to a configuration that cannot be loaded. -/
def Reply.ofLoadError [Limits] (terminal : Console.Terminal) (error : LoadError) : Reply :=
  match error.message? with
  | some message =>
    .ofBlocks terminal [Console.failure ("Failed to load configuration: " ++ message)] abortedText
      (.exit failureStatus)
  | none => ⟨"", "", .uncaught (.load error)⟩

/-- The line that counts what is wrong with a configuration. -/
def problemCount (problems : List ConfigurationProblem) : Console.Block :=
  Console.failure ("Found " ++ integerText problems.length ++ " configuration error(s):")

/-- What is wrong with a configuration, numbered from one. -/
def problemList (problems : List ConfigurationProblem) : List Console.Block :=
  problems.mapIdx fun index problem =>
    .message ("  " ++ integerText (index + 1 : Nat) ++ ". [red]" ++ problem.message ++ "[/red]")

/-- A run of the program. -/
structure ProgramRun where
  /-- What it prints and how it ends. -/
  reply : Reply
  /-- The warnings in order; they stand on the error channel in front of all
  else. -/
  warnings : List String
  /-- How `git` was started, if it was. -/
  start? : Option GitStart
  /-- The world afterwards. -/
  world : World

/-- All that a run prints on the error channel. -/
def ProgramRun.complaints (run : ProgramRun) : String :=
  String.join (run.warnings.map (· ++ "\n")) ++ run.reply.complaint

end PatchCoverage.CommandLine
