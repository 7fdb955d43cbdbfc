import PatchCoverage.CommandLine.Check

namespace PatchCoverage.CommandLine

/-!
# The files that a run looks at

A run of the program looks at few files.  Their names follow from the arguments
and the environment, and, once the configuration is known, from the
configuration.  Whoever runs the program can so provide just these files.
-/

/-- The texts that arguments may use as names: every argument, and what stands
behind an equals sign. -/
def writtenNames (arguments : List String) : List String :=
  arguments.flatMap fun argument => argument :: (splitOption argument).2.toList

/-- The files and directories that the arguments and the environment may
name. -/
def namedFiles (world : World) (arguments : List String) : List PathName :=
  let directories := "." :: writtenNames arguments
  let configurations := directories.map fun directory =>
    (world.resolve (PathName.ofText directory)).join (PathName.ofText configurationFileName)
  let stepFiles := ["GITHUB_OUTPUT", "GITHUB_STEP_SUMMARY"].filterMap world.environment.nonempty?
  (directories ++ stepFiles).map PathName.ofText ++ configurations

/-- The files and directories where the report of a configuration may be. -/
def reportFiles (configuration : Configuration) : List PathName :=
  configuration.reportFile ::
    Report.standardLocations.map fun location =>
      (moduleDirectory configuration).join (PathName.ofText location)

/-- The files and directories that follow from the configuration. -/
def configuredFiles [Limits] (world : World) (arguments : List String) : List PathName :=
  match readRequest world arguments with
  | .ok (.check options) =>
    match prepare options (world.loadConfiguration options.directory).outcome with
    | .ok configuration => reportFiles configuration
    | .error _ => []
  | _ => []

/-- Whether a command line asks to read standard input. -/
def readsStandardInput (world : World) (arguments : List String) : Bool :=
  match readRequest world arguments with
  | .ok (.check options) => options.changes? == some .standardInput
  | _ => false

/-- The files that differ between two trees, as they are in the second. -/
def changedFiles (before after : FileTree) : List (List String × List UInt8) :=
  let old := before.files []
  (after.files []).filter fun (parts, content) => old.lookup parts != some content

end PatchCoverage.CommandLine
