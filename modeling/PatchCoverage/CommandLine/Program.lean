import PatchCoverage.CommandLine.Check
import PatchCoverage.Config.Show

namespace PatchCoverage.CommandLine

/-!
# The program

The program reads its arguments into a request and carries it out.  Beside the
command `check` there are two commands about the configuration, and the texts on
help and version.

The library that reads arguments can also be asked, by a variable of its own, to
complete a command line.  Then no command runs; such runs are not looked at.
-/

/-- The reply that shows a configuration. -/
def showReply [Limits] (terminal : Console.Terminal) (asJson : Bool)
    (configuration : Configuration) : Reply :=
  if asJson then
    .ofText (configuration.jsonText ++ "\n") (.exit 0)
  else
    let heading :=
      [Console.emptyLine, .message "[bold cyan]Configuration:[/bold cyan]", Console.emptyLine]
    let text := configuration.yamlText ++ "\n"
    .ofPrinted ((Console.print terminal heading).andThen (Console.printTexts [text])) "" (.exit 0)

/-- The reply to a configuration with the given problems. -/
def validationReply [Limits] (terminal : Console.Terminal) : List ConfigurationProblem → Reply
  | [] => .ofBlocks terminal [Console.success "Configuration is valid!"] "" (.exit 0)
  | problems =>
    .ofBlocks terminal
      (problemCount problems :: Console.emptyLine :: problemList problems ++
        [Console.emptyLine,
          Console.remark "Fix these errors and run 'diffcov config validate' again."])
      abortedText (.exit failureStatus)

/-- Runs a command on the configuration of a directory. -/
def runOnConfiguration [Limits] (world : World) (directory : PathName)
    (reply : Configuration → Reply) : ProgramRun :=
  let load := world.loadConfiguration directory
  let reply := match load.outcome with
    | .error error => .ofLoadError world.terminal error
    | .ok configuration => reply configuration
  ⟨reply, load.warnings, none, world⟩

/-- Carries out a request. -/
def carryOut [Limits] (world : World) (mark : String) : Request → ProgramRun
  | .help command => ⟨.ofText command.help (.exit 0), [], none, world⟩
  | .version => ⟨.ofText versionText (.exit 0), [], none, world⟩
  | .check options => runCheck world mark options
  | .showConfiguration directory asJson =>
    runOnConfiguration world directory (showReply world.terminal asJson)
  | .validateConfiguration directory =>
    runOnConfiguration world directory fun configuration =>
      validationReply world.terminal (configuration.problems true)

/-- The reply to a command line that asks for nothing. -/
def Refusal.reply : Refusal → Reply
  | usage _ (.value _ .zeroCharacter) => ⟨"", "", .uncaught (.file .zeroCharacter)⟩
  | usage command problem => ⟨"", problem.report command, .exit usageStatus⟩
  | bareGroup command => ⟨"", command.help, .exit usageStatus⟩

/-- Runs the program; `mark` tells what it adds to an output file from what
other runs add. -/
def run [Limits] (world : World) (mark : String) (arguments : List String) : ProgramRun :=
  match readRequest world arguments with
  | .ok request => carryOut world mark request
  | .error refusal => ⟨refusal.reply, [], none, world⟩

end PatchCoverage.CommandLine
