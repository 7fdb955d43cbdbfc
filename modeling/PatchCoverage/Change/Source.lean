import PatchCoverage.Change.Ref
import PatchCoverage.Text.Blank
import PatchCoverage.Text.Lines
import PatchCoverage.Text.Utf8
import PatchCoverage.World.Basic

namespace PatchCoverage

/-!
# Where changed files come from

The changed files of a run are the lines that `git diff --name-only` prints,
or the lines of a text that is given instead.  Blank lines are no paths in
either.  A path of a given text loses the blanks around it; one that `git`
prints keeps them.

Before `git` is started both refs are checked, so that a bad ref never reaches
it.
-/

/-- Why `git` did not list changed files. -/
inductive DiffError where
  /-- A ref breaks a rule. -/
  | badRef (problem : RefProblem)
  /-- There is no such program. -/
  | noProgram
  /-- It cannot run in the given directory. -/
  | badDirectory (directory : String) (problem : FileProblem)
  /-- It failed. -/
  | failed (base head : String) (status : Nat) (printed : String)
  /-- What it printed is not text. -/
  | undecodable (fault : Utf8Fault)
  deriving DecidableEq, Repr

/-- The wording of an error that commands answer for. Those without one end the
program. -/
def DiffError.message? : DiffError → Option String
  | badRef problem => some problem.message
  | noProgram => some ("Failed to run git: " ++ FileProblem.missing.describe (quoted "git"))
  | badDirectory _ .zeroCharacter => none
  | badDirectory directory problem =>
    some ("Failed to run git: " ++ problem.describe ("PosixPath(" ++ quoted directory ++ ")"))
  | failed base head status printed =>
    let shown := trimBlank printed
    some ("git diff " ++ refRange base head ++ " failed with exit code " ++ integerText status ++
      (if shown.isEmpty then "" else ": " ++ shown))
  | undecodable _ => none

/-- An attempt to list changed files with `git`. -/
structure DiffRun where
  /-- How `git` was started, if it was. -/
  start? : Option GitStart
  /-- The listed files. -/
  outcome : Except DiffError (List String)

/-- The paths that `git` lists in what it printed. -/
def listedPaths (printed : String) : List String :=
  (splitLines (String.ofList (unifyNewlines printed.toList))).filter fun line => !isBlankText line

/-- The arguments that make `git` list changed files. -/
def diffArguments (base head : String) : List String :=
  ["diff", "--name-only", refRange base head]

/-- What an exit status and a printed text mean. -/
def diffOutcome (base head : String) (reply : GitReply) : Except DiffError (List String) :=
  match decodeUtf8 reply.printed with
  | .error fault => .error (.undecodable fault)
  | .ok printed =>
    if reply.status = 0 then
      .ok (listedPaths printed)
    else
      .error (.failed base head reply.status (String.ofList (unifyNewlines printed.toList)))

/-- Lists the files that changed between two refs, with `git` run in the given
directory. -/
def World.gitChanges (world : World) (directory : PathName) (base head : String) : DiffRun :=
  match (RefProblem.of? base).or (RefProblem.of? head) with
  | some problem => ⟨none, .error (.badRef problem)⟩
  | none =>
    match world.locate directory >>= world.files.find with
    | .error problem => ⟨none, .error (.badDirectory directory.toText problem)⟩
    | .ok ⟨_, .file _, _⟩ => ⟨none, .error (.badDirectory directory.toText .notDirectory)⟩
    | .ok ⟨trail, .directory _, _⟩ =>
      match world.git with
      | none => ⟨none, .error .noProgram⟩
      | some reply =>
        ⟨some ⟨"/" ++ "/".intercalate trail.reverse, diffArguments base head⟩,
          diffOutcome base head reply⟩

/-- Given paths without the blanks around them and without blank ones. -/
def givenPaths (paths : List String) : List String :=
  (paths.map trimBlank).filter fun path => !path.isEmpty

/-- The paths that a given text lists, one a line. -/
def pathsOfText (text : String) : List String :=
  givenPaths (splitLines text)

end PatchCoverage
