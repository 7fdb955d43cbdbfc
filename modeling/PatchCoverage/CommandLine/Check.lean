import PatchCoverage.CommandLine.Outcome
import PatchCoverage.CommandLine.Request
import PatchCoverage.Publish.Terminal

namespace PatchCoverage.CommandLine

/-!
# The command `check`

The command has two halves.  `examine` prepares the configuration, lists the
changed files, reads the report and scores; it changes nothing, and the first
stage that fails ends it.  `publish` prints the outcome and adds it to the files
of the workflow step.  What the outcome is does not depend on how it is
published.
-/

/-- Why nothing was scored. -/
inductive CheckStop where
  /-- The configuration cannot be loaded. -/
  | load (error : LoadError)
  /-- Two options contradict each other. -/
  | contradiction
  /-- The configuration is of no use. -/
  | invalid (problems : List ConfigurationProblem)
  /-- The changed files cannot be listed. -/
  | diff (error : DiffError)
  /-- The given list of changed files is not text. -/
  | changeList (fault : Utf8Fault)
  /-- A file cannot be used. -/
  | file (problem : FileProblem)
  /-- There is no report. -/
  | report (error : ReportError)
  /-- A percentage does not exist. -/
  | arithmetic (error : ArithmeticError)
  deriving DecidableEq

/-- What the two options on failing make of the setting; `none` leaves it as
it is. -/
def failureOverride (failUnder warnOnly : Bool) : Except UsageProblem (Option Bool) :=
  if failUnder && warnOnly then .error .contradiction
  else if warnOnly then .ok (some false)
  else if failUnder then .ok (some true)
  else .ok none

/-- The configuration of a run, with its options on top. -/
def prepare (options : CheckOptions) (loaded : Except LoadError Configuration) :
    Except CheckStop Configuration := do
  let loaded ← loaded.mapError CheckStop.load
  let failing ← (failureOverride options.failUnder options.warnOnly).mapError
    fun _ => CheckStop.contradiction
  let configuration :=
    loaded.override { options.overrides with failUnderThreshold := failing }
  match configuration.problems options.changes?.isNone with
  | [] => .ok configuration
  | problems => .error (.invalid problems)

/-- The octets of a given list of changed files. -/
def ChangeList.octets (world : World) : ChangeList → Except FileProblem (List UInt8)
  | standardInput => .ok world.input
  | file name => world.read name

/-- The paths in a given list of changed files. -/
def ChangeList.paths (world : World) (list : ChangeList) : Except CheckStop (List String) := do
  let octets ← (list.octets world).mapError CheckStop.file
  let text ← (decodeText octets).mapError CheckStop.changeList
  pure (pathsOfText text)

/-- Lists the changed files of a run, and tells how `git` was started for
that. -/
def listChanges (world : World) (options : CheckOptions) (configuration : Configuration) :
    Option GitStart × Except CheckStop (List String) :=
  match options.changes? with
  | some list => (none, list.paths world)
  | none =>
    let run := world.gitChanges (PathName.ofText configuration.root) configuration.git.baseRef
      configuration.git.headRef
    (run.start?, run.outcome.mapError CheckStop.diff)

/-- The directory of the module. -/
def moduleDirectory (configuration : Configuration) : PathName :=
  (PathName.ofText configuration.root).join (PathName.ofText configuration.paths.modulePath)

/-- The warning about a report that is not where it should be but elsewhere. -/
def misplacedWarning (expected found : PathName) : String :=
  "No coverage report at " ++ expected.toText ++ ", but " ++ found.toText ++
    " exists; pass --report to use it"

/-- The warnings about the report's place. -/
def reportWarnings (world : World) (configuration : Configuration) :
    Except FileProblem (List String) := do
  if ← world.isFile configuration.reportFile then pure []
  else
    let found ← world.detectReport (moduleDirectory configuration)
    pure (found.map (misplacedWarning configuration.reportFile)).toList

/-- What a run found out. -/
structure Examination where
  /-- The warnings in order. -/
  warnings : List String
  /-- How `git` was started, if it was. -/
  start? : Option GitStart
  /-- The configuration in effect and the outcome. -/
  outcome : Except CheckStop (Configuration × ChangeCoverage)

/-- Scores changed files with the report of a configuration. -/
def examineChanges (world : World) (configuration : Configuration) (changed : List String) :
    List String × Except CheckStop ChangeCoverage :=
  match reportWarnings world configuration with
  | .error problem => ([], .error (.file problem))
  | .ok warnings =>
    match world.readReport configuration.reportFile with
    | .error error => (warnings, .error (.report error))
    | .ok report =>
      let analysis := configuration.scoringRules.analyze report changed
      (warnings ++ analysis.warnings, analysis.outcome.mapError CheckStop.arithmetic)

/-- Finds out all that a run publishes. -/
def examine [Limits] (world : World) (options : CheckOptions) : Examination :=
  let load := world.loadConfiguration options.directory
  match prepare options load.outcome with
  | .error stop => ⟨load.warnings, none, .error stop⟩
  | .ok configuration =>
    match listChanges world options configuration with
    | (start?, .error stop) => ⟨load.warnings, start?, .error stop⟩
    | (start?, .ok changed) =>
      let (warnings, result) := examineChanges world configuration changed
      { warnings := load.warnings ++ warnings
        start? := start?
        outcome := result.map fun result => (configuration, result) }

/-- The reply to a run that scored nothing. -/
def CheckStop.reply [Limits] (terminal : Console.Terminal) : CheckStop → Reply
  | load error => .ofLoadError terminal error
  | contradiction => ⟨"", UsageProblem.contradiction.report .check, .exit usageStatus⟩
  | invalid problems =>
    .ofBlocks terminal (problemCount problems :: problemList problems) "" (.exit usageStatus)
  | diff error => .ofError error.message? (.diff error)
  | changeList fault => ⟨"", "", .uncaught (.changeList fault)⟩
  | file problem => ⟨"", "", .uncaught (.file problem)⟩
  | report error => .ofError error.message? (.report error)
  | arithmetic error => ⟨"", "", .uncaught (.arithmetic error)⟩

/-- What publishing has come to. -/
structure Publication where
  /-- What was printed. -/
  printed : String
  /-- The world afterwards. -/
  world : World
  /-- What went wrong, if anything. -/
  error? : Option Uncaught

namespace Publication

/-- Goes on with a further step, unless something went wrong. -/
def andThen (publication : Publication) (step : World → Publication) : Publication :=
  match publication.error? with
  | some _ => publication
  | none =>
    let next := step publication.world
    { next with printed := publication.printed ++ next.printed }

/-- What was printed. -/
def ofPrinted (printed : Except Uncaught Console.Printed) (world : World) : Publication :=
  match printed with
  | .error error => ⟨"", world, some error⟩
  | .ok printed => ⟨printed.text, world, printed.error?.map Uncaught.ofPrint⟩

/-- Prints lines as they stand, if there are any. -/
def ofLines [Limits] (lines : Except Uncaught (List String)) (world : World) : Publication :=
  .ofPrinted (lines.map fun lines => Console.printTexts (lines.map (· ++ "\n"))) world

/-- Prints blocks, if there are any. -/
def ofBlocks [Limits] (blocks : Except ArithmeticError (List Console.Block)) (world : World) :
    Publication :=
  .ofPrinted ((blocks.mapError Uncaught.arithmetic).map (Console.print world.terminal)) world

/-- Writes to a file of the workflow step. -/
def ofWrite (run : WriteRun) : Publication :=
  ⟨"", run.world, run.error?.map Uncaught.write⟩

end Publication

/-- Where the files of a configuration can be looked at. -/
def linkTarget (configuration : Configuration) : LinkTarget :=
  ⟨configuration.git.repository, configuration.git.headRef⟩

/-- Prints the report. -/
def publishReport [Limits] (asJson : Bool) (target : LinkTarget) (result : ChangeCoverage)
    (world : World) : Publication :=
  if asJson then
    .ofLines (((JsonReport.text target result).mapError Uncaught.json).map ([·])) world
  else
    .ofBlocks (TerminalReport.blocks result) world

/-- Prints the outputs of the workflow step as commands. -/
def publishLines [Limits] (target : LinkTarget) (result : ChangeCoverage) (world : World) :
    Publication :=
  .ofLines ((StepOutput.commandLines target result).mapError Uncaught.arithmetic) world

/-- The file that a variable names, if the setting for it is on. -/
def stepFile? (world : World) (enabled : Bool) (name : String) : Option PathName :=
  if enabled then (world.environment.nonempty? name).map PathName.ofText else none

/-- Adds the outputs of the workflow step to their file. -/
def publishOutputs [Limits] (mark : String) (target : LinkTarget) (result : ChangeCoverage)
    (enabled : Bool) (world : World) : Publication :=
  match stepFile? world enabled "GITHUB_OUTPUT" with
  | some name => .ofWrite (world.writeOutputs name mark target result)
  | none => ⟨"", world, none⟩

/-- Adds the summary of the workflow step to its file. -/
def publishSummary [Limits] (target : LinkTarget) (result : ChangeCoverage) (enabled : Bool)
    (world : World) : Publication :=
  match stepFile? world enabled "GITHUB_STEP_SUMMARY" with
  | some name => .ofWrite (world.writeSummary name target result)
  | none => ⟨"", world, none⟩

/-- Whether the outputs are printed as commands. -/
def printsLines (options : CheckOptions) (configuration : Configuration) : Bool :=
  !options.asJson && !options.noSetOutput && configuration.output.setOutputLines

/-- Publishes an outcome; `mark` tells its block in the output file from
others. -/
def publish [Limits] (world : World) (mark : String) (options : CheckOptions)
    (configuration : Configuration) (result : ChangeCoverage) : Publication :=
  let target := linkTarget configuration
  let output := configuration.output
  (((publishReport options.asJson target result world).andThen fun world =>
    if printsLines options configuration then publishLines target result world
    else ⟨"", world, none⟩).andThen
      (publishOutputs mark target result output.githubOutput)).andThen
        (publishSummary target result output.stepSummary)

/-- How a run with an outcome ends. -/
def endingOf (configuration : Configuration) (result : ChangeCoverage) : Ending :=
  match result.meetsThreshold with
  | .error error => .uncaught (.arithmetic error)
  | .ok met =>
    .exit (if !met && configuration.coverage.failUnderThreshold then failureStatus else 0)

/-- Runs the command `check`. -/
def runCheck [Limits] (world : World) (mark : String) (options : CheckOptions) : ProgramRun :=
  let examination := examine world options
  match examination.outcome with
  | .error stop => ⟨stop.reply world.terminal, examination.warnings, examination.start?, world⟩
  | .ok (configuration, result) =>
    let publication := publish world mark options configuration result
    let ending := match publication.error? with
      | some error => .uncaught error
      | none => endingOf configuration result
    ⟨⟨publication.printed, "", ending⟩, examination.warnings, examination.start?,
      publication.world⟩

end PatchCoverage.CommandLine
