import PatchCoverage.Publish.StepOutput
import PatchCoverage.Publish.StepSummary
import PatchCoverage.Text.Utf8
import PatchCoverage.World.Basic
import PatchCoverage.World.Limits

namespace PatchCoverage

/-!
# Files of a workflow step

Outputs and summary are added to the end of the files that the runner names.
The block of outputs is made before its file is opened.  The summary is made
after its file was opened: when it cannot be made, a file that did not exist is
left behind empty.  So it is by either when the file has no code for a character of
what is to be written.
-/

/-- Why a file of the step was not written. -/
inductive WriteError where
  /-- A percentage does not exist. -/
  | arithmetic (error : ArithmeticError)
  /-- The file cannot be used. -/
  | file (problem : FileProblem)
  /-- The file has no code for a character. -/
  | encoding
  deriving DecidableEq, Repr

/-- An attempt to write to a file: the world after it, and what went wrong. -/
structure WriteRun where
  /-- The world afterwards. -/
  world : World
  /-- What went wrong, if anything. -/
  error? : Option WriteError

namespace World

/-- Opens a file and adds a text to its end, or nothing if it has no code for a
character of the text. -/
def appendText [Limits] (world : World) (name : PathName) (text : String) : WriteRun :=
  match world.append name (if Limits.writes text then encodeUtf8 text else []) with
  | .error problem => ⟨world, some (.file problem)⟩
  | .ok world => ⟨world, if Limits.writes text then none else some .encoding⟩

/-- Adds the outputs of a run to the step's output file. -/
def writeOutputs [Limits] (world : World) (name : PathName) (mark : String) (target : LinkTarget)
    (result : ChangeCoverage) : WriteRun :=
  match StepOutput.block mark target result with
  | .error error => ⟨world, some (.arithmetic error)⟩
  | .ok block => world.appendText name block

/-- Adds the summary of a run to the step's summary file. -/
def writeSummary [Limits] (world : World) (name : PathName) (target : LinkTarget)
    (result : ChangeCoverage) : WriteRun :=
  let opened := world.appendText name ""
  match opened.error?, StepSummary.text target result with
  | some _, _ => opened
  | none, .error error => { opened with error? := some (.arithmetic error) }
  | none, .ok text => opened.world.appendText name text

end World

end PatchCoverage
