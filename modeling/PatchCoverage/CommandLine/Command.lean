namespace PatchCoverage.CommandLine

/-!
# The commands of the program

Every command has a path, a description and options; a group has commands of
its own.  The help of a command is laid out from these: a line on its usage,
its description, and a list of its options and commands in two columns.
-/

/-- The name of the program. -/
def programName : String := "diffcov"

/-- The version of the program. -/
def programVersion : String := "0.1.0"

/-- What the program can be asked to do. -/
inductive Command where
  /-- The program itself, a group. -/
  | program
  /-- Score the changed files. -/
  | check
  /-- The group of commands about the configuration. -/
  | configuration
  /-- Show the configuration. -/
  | showConfiguration
  /-- Check the configuration. -/
  | validateConfiguration
  deriving DecidableEq, Repr

/-- What an option takes. -/
inductive Argument where
  /-- Nothing. -/
  | none
  /-- A value, which help calls by the given name. -/
  | value (name : String)
  deriving DecidableEq, Repr

/-- An option of a command. -/
structure CommandOption where
  /-- The name with its dashes. -/
  name : String
  /-- What it takes. -/
  argument : Argument
  /-- The lines that describe it. -/
  description : List String
  deriving DecidableEq, Repr

/-- Whether an option takes a value. -/
def CommandOption.takesValue (option : CommandOption) : Bool :=
  option.argument != .none

/-- The option that asks for help. -/
def helpOption : CommandOption :=
  ⟨"--help", .none, ["Show this message and exit."]⟩

/-- The option that asks for the version. -/
def versionOption : CommandOption :=
  ⟨"--version", .none, ["Show the version and exit."]⟩

/-- The option for the directory of the repository. -/
def pathOption : CommandOption :=
  ⟨"--path", .value "DIRECTORY", ["Repository root directory."]⟩

/-- The kinds of counter that can be asked for, as they are written. -/
def counterChoices : List String :=
  ["branch", "class", "complexity", "instruction", "line", "method"]

/-- The options of the program itself, help apart. -/
def programOptions : List CommandOption :=
  [⟨"--ci", .none, ["CI mode: machine-readable JSON output instead of the rich report."]⟩,
    versionOption]

/-- The options of the command `check`, help apart. -/
def checkOptions : List CommandOption :=
  [pathOption,
    ⟨"--base-ref", .value "TEXT", ["Target branch (default: $GITHUB_BASE_REF)."]⟩,
    ⟨"--head-ref", .value "TEXT", ["Source branch (default: $GITHUB_HEAD_REF)."]⟩,
    ⟨"--repository", .value "TEXT",
      ["owner/repo used for file links (default:", "$GITHUB_REPOSITORY)."]⟩,
    ⟨"--report", .value "TEXT",
      ["JaCoCo XML report (default: <module-", "path>target/site/jacoco/jacoco.xml)."]⟩,
    ⟨"--module-path", .value "TEXT", ["Module directory prefixed to source paths."]⟩,
    ⟨"--source-root", .value "TEXT", ["Source directory inside the module."]⟩,
    ⟨"--threshold", .value "FLOAT", ["Minimum coverage percentage."]⟩,
    ⟨"--counter", .value ("[" ++ "|".intercalate counterChoices ++ "]"),
      ["JaCoCo counter kind to score (default:", "INSTRUCTION)."]⟩,
    ⟨"--fail-under", .none,
      ["Exit non-zero when the average is below the", "threshold (the default)."]⟩,
    ⟨"--warn-only", .none, ["Report a low average but exit 0."]⟩,
    ⟨"--changed-files", .value "FILENAME",
      ["Read changed paths from FILE ('-' for stdin)", "instead of running git diff."]⟩,
    ⟨"--json-output", .none, ["Output JSON instead of tables."]⟩,
    ⟨"--no-set-output", .none, ["Do not print ::set-output lines."]⟩]

namespace Command

/-- The words that lead to a command, those of its group included. -/
def path : Command → List String
  | program => [programName]
  | check => [programName, "check"]
  | configuration => [programName, "config"]
  | showConfiguration => [programName, "config", "show"]
  | validateConfiguration => [programName, "config", "validate"]

/-- The commands of a group. -/
def members : Command → List Command
  | program => [check, configuration]
  | configuration => [showConfiguration, validateConfiguration]
  | _ => []

/-- Whether a command is a group. -/
def isGroup (command : Command) : Bool :=
  !command.members.isEmpty

/-- The word that calls a command of a group. -/
def word (command : Command) : String :=
  command.path.getLast?.getD ""

/-- The options of a command. -/
def options (command : Command) : List CommandOption :=
  (match command with
    | program => programOptions
    | check => checkOptions
    | configuration => []
    | showConfiguration =>
      [pathOption, ⟨"--json-output", .none, ["Output as JSON instead of YAML."]⟩]
    | validateConfiguration => [pathOption]) ++ [helpOption]

/-- The line that a group's help has on a command. -/
def summary : Command → String
  | program => "diffcov — coverage of the files changed in a pull request."
  | check => "Report coverage of the files changed between two branches."
  | configuration => "Inspect `.diffcov.yml` configuration."
  | showConfiguration => "Display the resolved configuration."
  | validateConfiguration => "Validate `.diffcov.yml` and the CI environment."

/-- The lines that a command's help has after its summary, with an empty line
in front of every paragraph. -/
def details : Command → List String
  | check =>
    ["",
      "Runs `git diff --name-only BASE...HEAD`, matches the changed files against the",
      "JaCoCo report and averages their coverage.",
      "",
      "Example:   diffcov check --base-ref main --head-ref feature/x --threshold 60"]
  | showConfiguration =>
    ["",
      "Shows the configuration after `.diffcov.yml`, `$\x7bVAR\x7d` placeholders and CI",
      "environment variables have been applied."]
  | validateConfiguration => ["", "Example:   diffcov config validate"]
  | _ => []

/-- The text of a command's path. -/
def pathText (command : Command) : String :=
  " ".intercalate command.path

/-- The line on a command's usage. -/
def usageLine (command : Command) : String :=
  "Usage: " ++ command.pathText ++ " [OPTIONS]" ++
    if command.isGroup then " COMMAND [ARGS]..." else ""

end Command

/-- A line that is indented unless it is empty. -/
def indented (line : String) : String :=
  if line.isEmpty then line else "  " ++ line

/-- The greatest width of the left column of a list. -/
def leftColumnLimit : Nat := 30

/-- One row of a list in two columns, the left one `width` wide. A left side
that is wider stands on a line of its own. -/
def listRow (width : Nat) (left : String) (right : List String) : List String :=
  let blanks (count : Nat) := String.ofList (List.replicate count ' ')
  let below := right.map fun line => blanks (width + 4) ++ line
  if left.length ≤ width then
    match right with
    | [] => ["  " ++ left]
    | line :: _ => ("  " ++ left ++ blanks (width + 2 - left.length) ++ line) :: below.tail
  else
    ("  " ++ left) :: below

/-- A list in two columns. -/
def listRows (rows : List (String × List String)) : List String :=
  let width := min leftColumnLimit (rows.foldl (fun width (left, _) => max width left.length) 0)
  rows.flatMap fun (left, right) => listRow width left right

/-- An option as help shows it. -/
def CommandOption.label (option : CommandOption) : String :=
  match option.argument with
  | .none => option.name
  | .value name => option.name ++ " " ++ name

/-- The lines of a command's help. -/
def Command.helpLines (command : Command) : List String :=
  let options := command.options.map fun option => (option.label, option.description)
  let members := command.members.map fun member => (member.word, [member.summary])
  [command.usageLine, ""] ++ (command.summary :: command.details).map indented ++
    ["", "Options:"] ++ listRows options ++
    if command.isGroup then ["", "Commands:"] ++ listRows members else []

/-- The help of a command. -/
def Command.help (command : Command) : String :=
  "\n".intercalate command.helpLines ++ "\n"

/-- What the program says about its version. -/
def versionText : String :=
  programName ++ ", version " ++ programVersion ++ "\n"

end PatchCoverage.CommandLine
