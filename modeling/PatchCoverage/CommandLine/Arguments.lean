import PatchCoverage.CommandLine.Command
import PatchCoverage.CommandLine.Suggest
import PatchCoverage.Text.Quoted
import PatchCoverage.Text.Word

namespace PatchCoverage.CommandLine

/-!
# Reading arguments

An argument that begins with a dash is an option, unless it is a single dash.
An option that takes a value takes the next argument, whatever it looks like,
or what stands behind an equals sign.  Two dashes end the options.  A group
reads options up to its command's word only; a command reads them between
other arguments too.
-/

/-- An option that was given, with its value if it takes one. -/
structure GivenOption where
  /-- The name of the option. -/
  name : String
  /-- Its value. -/
  value : Option String
  deriving DecidableEq, Repr

/-- Arguments that were read. -/
structure Arguments where
  /-- The options in order. -/
  options : List GivenOption
  /-- The other arguments in order. -/
  others : List String
  deriving DecidableEq, Repr

/-- Why options cannot be read. -/
inductive OptionProblem where
  /-- There is no such option, but there are some like it. -/
  | unknown (name : String) (similar : List String)
  /-- An option lacks its value. -/
  | missingValue (name : String)
  /-- An option that takes no value has one. -/
  | unexpectedValue (name : String)
  deriving DecidableEq, Repr

/-- Whether an argument is an option. -/
def isOption (argument : String) : Bool :=
  match argument.toList with
  | '-' :: _ :: _ => true
  | _ => false

/-- The name of an option and the value behind its equals sign. -/
def splitOption (argument : String) : String × Option String :=
  let characters := argument.toList
  let name := String.ofList (characters.takeWhile (· != '='))
  match characters.dropWhile (· != '=') with
  | [] => (name, none)
  | _ :: value => (name, some (String.ofList value))

/-- The problem with an option that does not exist. With a single dash it is
read as options of one letter each, so the first letter is what does not
exist. -/
def unknownOption (known : List String) (argument name : String) : OptionProblem :=
  match argument.toList with
  | '-' :: '-' :: _ => .unknown name (suggestions name known)
  | dash :: letter :: _ => .unknown (String.ofList [dash, letter]) []
  | _ => .unknown name []

/-- Puts an option in front of arguments that were read. -/
def Arguments.withOption (name : String) (value : Option String) (arguments : Arguments) :
    Arguments :=
  { arguments with options := ⟨name, value⟩ :: arguments.options }

/-- Puts another argument in front of arguments that were read. -/
def Arguments.withOther (argument : String) (arguments : Arguments) : Arguments :=
  { arguments with others := argument :: arguments.others }

/-- Reads arguments. A group stops at the first one that is no option. -/
def readOptions (options : List CommandOption) (isGroup : Bool) :
    List String → Except OptionProblem Arguments
  | [] => .ok ⟨[], []⟩
  | argument :: rest =>
    if argument = "--" then .ok ⟨[], rest⟩
    else if isOption argument then
      let (name, attached) := splitOption argument
      match options.find? (·.name == name) with
      | none => .error (unknownOption (options.map CommandOption.name) argument name)
      | some option =>
        if option.takesValue then
          match attached, rest with
          | some value, rest =>
            (readOptions options isGroup rest).map (.withOption name (some value))
          | none, value :: rest =>
            (readOptions options isGroup rest).map (.withOption name (some value))
          | none, [] => .error (.missingValue name)
        else if attached.isSome then .error (.unexpectedValue name)
        else (readOptions options isGroup rest).map (.withOption name none)
    else if isGroup then .ok ⟨[], argument :: rest⟩
    else (readOptions options isGroup rest).map (.withOther argument)

namespace Arguments

/-- Whether an option was given. -/
def has (arguments : Arguments) (name : String) : Bool :=
  arguments.options.any (·.name == name)

/-- The value of an option; the last one counts. -/
def value? (arguments : Arguments) (name : String) : Option String :=
  (arguments.options.reverse.find? (·.name == name)).bind GivenOption.value

/-- The options that were given, each where it was given first. -/
def names (arguments : Arguments) : List String :=
  (arguments.options.map GivenOption.name).eraseDups

end Arguments

/-- What is wrong with a value. -/
inductive ValueProblem where
  /-- It is no number. -/
  | notNumber (written : String)
  /-- It is none of the possible values. -/
  | notChoice (written : String) (choices : List String)
  /-- There is no such directory. -/
  | noDirectory (written : String)
  /-- It is the name of a file, not of a directory. -/
  | notDirectory (written : String)
  /-- The file cannot be opened. -/
  | unopenable (written reason : String)
  /-- It holds a zero character, so it is the name of nothing. -/
  | zeroCharacter
  deriving DecidableEq, Repr

/-- The wording of what is wrong with a value. -/
def ValueProblem.message : ValueProblem → String
  | notNumber written => quoted written ++ " is not a valid float."
  | notChoice written choices =>
    quoted written ++ " is not one of " ++ ", ".intercalate (choices.map quoted) ++ "."
  | noDirectory written => "Directory " ++ quoted written ++ " does not exist."
  | notDirectory written => "Directory " ++ quoted written ++ " is a file."
  | unopenable written reason => "'" ++ written ++ "': " ++ reason
  | zeroCharacter => "embedded null byte"

/-- What is wrong with the arguments of a command. -/
inductive UsageProblem where
  /-- An option cannot be read. -/
  | option (problem : OptionProblem)
  /-- The value of an option cannot be used. -/
  | value (name : String) (problem : ValueProblem)
  /-- There are arguments that no one asked for. -/
  | extraArguments (arguments : List String)
  /-- A group was given no command. -/
  | noCommand
  /-- There is no such command, but there are some like it. -/
  | unknownCommand (word : String) (similar : List String)
  /-- Two options contradict each other. -/
  | contradiction
  deriving DecidableEq, Repr

/-- A message with the names that may have been meant. -/
def withSuggestions (message kind : String) : List String → String
  | [] => message
  | [name] => message ++ " Did you mean " ++ quoted name ++ "?"
  | names =>
    message ++ " (Possible " ++ kind ++ ": " ++ ", ".intercalate (names.map quoted) ++ ")"

/-- The wording of a problem with the arguments. -/
def UsageProblem.message : UsageProblem → String
  | option (.unknown name similar) =>
    withSuggestions ("No such option " ++ quoted name ++ ".") "options" similar
  | option (.missingValue name) => "Option " ++ quoted name ++ " requires an argument."
  | option (.unexpectedValue name) => "Option " ++ quoted name ++ " does not take a value."
  | value name problem => "Invalid value for " ++ quoted name ++ ": " ++ problem.message
  | extraArguments arguments =>
    "Got unexpected extra argument" ++ (if arguments.length = 1 then "" else "s") ++
      " (" ++ " ".intercalate arguments ++ ")"
  | noCommand => "Missing command."
  | unknownCommand word similar =>
    withSuggestions ("No such command " ++ quoted word ++ ".") "commands" similar
  | contradiction => "--fail-under and --warn-only are mutually exclusive."

/-- Whether a message on the problem comes with the usage of the command. -/
def UsageProblem.showsUsage : UsageProblem → Bool
  | option (.missingValue _) => false
  | option (.unexpectedValue _) => false
  | _ => true

/-- What the program says about a problem with the arguments of a command. -/
def UsageProblem.report (problem : UsageProblem) (command : Command) : String :=
  (if problem.showsUsage then
    command.usageLine ++ "\nTry '" ++ command.pathText ++ " --help' for help.\n\n"
  else "") ++
  "Error: " ++ problem.message ++ "\n"

end PatchCoverage.CommandLine
