import PatchCoverage.Config.Basic
import PatchCoverage.Json.Printer
import PatchCoverage.Yaml.Printer

namespace PatchCoverage

/-!
# Showing a configuration

A configuration is shown as a document of the same form as the configuration
file, with every setting filled in: as YAML or as JSON.
-/

/-- A setting as it is shown. -/
inductive ShownValue where
  /-- A text. -/
  | text (value : String)
  /-- A number. -/
  | number (value : Binary64)
  /-- A truth value. -/
  | truth (value : Bool)
  deriving DecidableEq

/-- An entry of the document. -/
inductive ShownEntry where
  /-- A setting. -/
  | setting (value : ShownValue)
  /-- A group of settings. -/
  | group (settings : List (String × ShownValue))
  deriving DecidableEq

namespace Configuration

/-- The document that shows a configuration. -/
def shown (configuration : Configuration) : List (String × ShownEntry) :=
  let { root, coverage, paths, git, output, .. } := configuration
  [("root", .setting (.text root)),
    ("coverage", .group
      [("threshold", .number coverage.threshold),
        ("counter_type", .text coverage.counterKind),
        ("fail_under_threshold", .truth coverage.failUnderThreshold)]),
    ("paths", .group
      [("module_path", .text paths.modulePath),
        ("source_root", .text paths.sourceRoot),
        ("report_path", .text paths.reportPath)]),
    ("git", .group
      [("base_ref", .text git.baseRef),
        ("head_ref", .text git.headRef),
        ("repository", .text git.repository)]),
    ("output", .group
      [("set_output_lines", .truth output.setOutputLines),
        ("github_output", .truth output.githubOutput),
        ("step_summary", .truth output.stepSummary)])]

end Configuration

/-- A setting as a value of a configuration file. -/
def ShownValue.value : ShownValue → Yaml.Value
  | text value => .string value
  | number value => .number value
  | truth value => .bool value

/-- An entry as a value of a configuration file. -/
def ShownEntry.value : ShownEntry → Yaml.Value
  | setting value => value.value
  | group settings => .mapping (settings.map fun (name, value) => (.string name, value.value))

/-- The entries of a configuration file that sets everything as it is. -/
def Configuration.fileEntries (configuration : Configuration) : List (Yaml.Value × Yaml.Value) :=
  configuration.shown.map fun (name, entry) => (.string name, entry.value)

/-- A setting in JSON. -/
def ShownValue.json : ShownValue → Json
  | text value => .string value
  | number value => .number value
  | truth value => .bool value

/-- An entry in JSON. -/
def ShownEntry.json : ShownEntry → Json
  | setting value => value.json
  | group settings => .object (settings.map fun (name, value) => (name, value.json))

/-- The JSON document that shows a configuration. -/
def Configuration.jsonText (configuration : Configuration) : String :=
  (Json.object (configuration.shown.map fun (name, entry) => (name, entry.json))).text .ascii

/-- How far a group is indented. -/
def groupIndent : Nat := 2

/-- A setting in YAML, as a line with the given indentation or as several. -/
def ShownValue.yamlLine (indent : Nat) (name : String) (value : ShownValue) : List Char :=
  let label := List.replicate indent ' ' ++ name.toList ++ [':', ' ']
  let written := match value with
    | text value => Yaml.writeText (indent + groupIndent) label.length value
    | number value => Yaml.writeNumber value
    | truth value => Yaml.writeTruth value
  label ++ written ++ ['\n']

/-- An entry in YAML. -/
def ShownEntry.yamlLines (name : String) : ShownEntry → List Char
  | setting value => value.yamlLine 0 name
  | group settings =>
    name.toList ++ [':', '\n'] ++
      settings.flatMap fun (name, value) => value.yamlLine groupIndent name

/-- The YAML document that shows a configuration. -/
def Configuration.yamlText (configuration : Configuration) : String :=
  String.ofList (configuration.shown.flatMap fun (name, entry) => entry.yamlLines name)

end PatchCoverage
