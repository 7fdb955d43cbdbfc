import PatchCoverage.CommandLine.Arguments
import PatchCoverage.Config.Override
import PatchCoverage.Number.Literal
import PatchCoverage.World.Basic

namespace PatchCoverage.CommandLine

/-!
# What a command line asks for

The arguments of the program are read into a request.  Options on help and on
the version come before all others; then the values of options are looked at in
the order in which the options were given, and the first one that cannot be used
is the problem.  Whether directories and files exist is part of that, so a
request is read in a world.
-/

/-- A text that lists changed files. -/
inductive ChangeList where
  /-- Standard input. -/
  | standardInput
  /-- A file. -/
  | file (name : PathName)
  deriving DecidableEq, Repr

/-- The options of the command `check`. -/
structure CheckOptions where
  /-- The directory of the repository. -/
  directory : PathName
  /-- Settings that go before the configuration. -/
  overrides : Overrides
  /-- Whether a low average is asked to fail the run. -/
  failUnder : Bool
  /-- Whether a low average is asked not to fail the run. -/
  warnOnly : Bool
  /-- Where the changed files are listed, unless `git` is asked. -/
  changes? : Option ChangeList
  /-- Whether the report is asked for in JSON. -/
  asJson : Bool
  /-- Whether workflow commands are not wanted. -/
  noSetOutput : Bool
  deriving DecidableEq

/-- What a command line asks for. -/
inductive Request where
  /-- The help of a command. -/
  | help (command : Command)
  /-- The version of the program. -/
  | version
  /-- To score the changed files. -/
  | check (options : CheckOptions)
  /-- To show the configuration of a directory. -/
  | showConfiguration (directory : PathName) (asJson : Bool)
  /-- To check the configuration of a directory. -/
  | validateConfiguration (directory : PathName)
  deriving DecidableEq

/-- Why a command line asks for nothing. -/
inductive Refusal where
  /-- The arguments of a command are wrong. -/
  | usage (command : Command) (problem : UsageProblem)
  /-- A group was called without any arguments. -/
  | bareGroup (command : Command)
  deriving DecidableEq, Repr

/-- The directory that a value names. -/
def directoryNamed (world : World) (written : String) : Except ValueProblem PathName :=
  let name := PathName.ofText written
  let directory := world.resolve name
  if name.hasZero then .error .zeroCharacter
  else
    match world.locate directory >>= world.files.find with
    | .ok ⟨_, .directory _, _⟩ => .ok directory
    | .ok ⟨_, .file _, _⟩ => .error (.notDirectory written)
    | .error _ => .error (.noDirectory written)

/-- Whether a file is named as if it were a directory. -/
def endsLikeDirectory (written : String) : Bool :=
  match (piecesBetween '/' written.toList).reverse with
  | last :: _ :: _ => last == [] || last == ['.']
  | _ => false

/-- Why the file that a value names cannot be opened, if it cannot. -/
def openingProblem? (world : World) (written : String) : Option FileProblem :=
  if written.isEmpty then some .missing
  else
    match world.read (PathName.ofText written) with
    | .ok _ => if endsLikeDirectory written then some .notDirectory else none
    | .error problem => some problem

/-- The list of changed files that a value names; a dash is standard input. -/
def changeListNamed (world : World) (written : String) : Except ValueProblem ChangeList :=
  if written = "-" then .ok .standardInput
  else
    match openingProblem? world written with
    | none => .ok (.file (PathName.ofText written))
    | some problem =>
      match problem.report? with
      | some (_, wording) => .error (.unopenable written wording)
      | none => .error .zeroCharacter

/-- The number that a value writes. -/
def numberNamed (written : String) : Except ValueProblem Binary64 :=
  match readNumber? written with
  | some number => .ok number
  | none => .error (.notNumber written)

/-- The kind of counter that a value names, in letters of either case. -/
def counterNamed (written : String) : Except ValueProblem String :=
  match counterChoices.find? fun choice => foldCase choice == foldCase written with
  | some choice => .ok (upperCase choice)
  | none => .error (.notChoice written counterChoices)

/-- Adds the value of an option of the command `check`. -/
def CheckOptions.setValue (world : World) (options : CheckOptions) (name written : String) :
    Except ValueProblem CheckOptions :=
  let text (set : Overrides → Overrides) : Except ValueProblem CheckOptions :=
    .ok { options with overrides := set options.overrides }
  match name with
  | "--path" => (directoryNamed world written).map fun directory => { options with directory }
  | "--base-ref" => text fun overrides => { overrides with baseRef := some written }
  | "--head-ref" => text fun overrides => { overrides with headRef := some written }
  | "--repository" => text fun overrides => { overrides with repository := some written }
  | "--report" => text fun overrides => { overrides with reportPath := some written }
  | "--module-path" => text fun overrides => { overrides with modulePath := some written }
  | "--source-root" => text fun overrides => { overrides with sourceRoot := some written }
  | "--threshold" => (numberNamed written).map fun number =>
    { options with overrides := { options.overrides with threshold := some number } }
  | "--counter" => (counterNamed written).map fun kind =>
    { options with overrides := { options.overrides with counterKind := some kind } }
  | "--changed-files" => (changeListNamed world written).map fun list =>
    { options with changes? := some list }
  | _ => .ok options

/-- The current directory. -/
def currentDirectory (world : World) : PathName :=
  world.resolve (PathName.ofText ".")

/-- The directory that the options name, the current one if none. -/
def directoryOf (world : World) (arguments : Arguments) : Except ValueProblem PathName :=
  match arguments.value? pathOption.name with
  | some written => directoryNamed world written
  | none => .ok (currentDirectory world)

/-- The options of the command `check`; `ci` is the option of the program. -/
def checkOptionsOf (world : World) (ci : Bool) (arguments : Arguments) :
    Except UsageProblem CheckOptions :=
  let options : CheckOptions :=
    { directory := currentDirectory world
      overrides := {}
      failUnder := arguments.has "--fail-under"
      warnOnly := arguments.has "--warn-only"
      changes? := none
      asJson := ci || arguments.has "--json-output"
      noSetOutput := arguments.has "--no-set-output" }
  arguments.names.foldlM
    (fun options name =>
      match arguments.value? name with
      | some written => (options.setValue world name written).mapError (.value name)
      | none => .ok options)
    options

/-- The request of an option on help or on the version. -/
def earlyRequest? (command : Command) (arguments : Arguments) : Option Request :=
  arguments.names.findSome? fun name =>
    if name = helpOption.name then some (.help command)
    else if name = versionOption.name then some .version
    else none

/-- Reads the arguments of a command up to its options. -/
def readArguments (command : Command) (arguments : List String) : Except Refusal Arguments :=
  (readOptions command.options command.isGroup arguments).mapError
    fun problem => .usage command (.option problem)

/-- The request of a command that is no group: an early one, else the one that
its options make up. -/
def readCommand (command : Command) (arguments : List String)
    (request : Arguments → Except UsageProblem Request) : Except Refusal Request := do
  let arguments ← readArguments command arguments
  match earlyRequest? command arguments with
  | some request => .ok request
  | none =>
    let request ← (request arguments).mapError (.usage command)
    if arguments.others.isEmpty then .ok request
    else .error (.usage command (.extraArguments arguments.others))

/-- Whether a word begins with a character that no command begins with. -/
def beginsWithMark (word : String) : Bool :=
  match word.toList with
  | [] => false
  | c :: _ => c == '_' || !isWord c

/-- The request of a group: an early one, else that of its command, which
`call` reads from the group's options, the command's word and the rest. A word
that is no command and begins like an option is looked at as one again. -/
def readGroup (group : Command) (arguments : List String)
    (call : Arguments → Command → List String → Except Refusal Request) :
    Except Refusal Request := do
  if arguments.isEmpty then throw (.bareGroup group)
  let read ← readArguments group arguments
  match earlyRequest? group read, read.others with
  | some request, _ => .ok request
  | none, [] => .error (.usage group .noCommand)
  | none, word :: rest =>
    match group.members.find? (·.word == word) with
    | some command => call read command rest
    | none =>
      let again ← if beginsWithMark word then readArguments group (word :: rest) else pure read
      match earlyRequest? group again with
      | some request => .ok request
      | none =>
        .error (.usage group (.unknownCommand word
          (suggestions word (group.members.map Command.word))))

/-- The request of a command about the configuration. -/
def readConfigurationCommand (world : World) (command : Command) (arguments : List String) :
    Except Refusal Request :=
  readCommand command arguments fun arguments => do
    let directory ← (directoryOf world arguments).mapError (.value pathOption.name)
    match command with
    | .showConfiguration =>
      pure (.showConfiguration directory (arguments.has "--json-output"))
    | _ => pure (.validateConfiguration directory)

/-- The request of a command line. -/
def readRequest (world : World) (arguments : List String) : Except Refusal Request :=
  readGroup .program arguments fun programArguments command rest =>
    match command with
    | .check =>
      readCommand command rest fun arguments =>
        (checkOptionsOf world (programArguments.has "--ci") arguments).map Request.check
    | _ =>
      readGroup .configuration rest fun _ command rest =>
        readConfigurationCommand world command rest

end PatchCoverage.CommandLine
