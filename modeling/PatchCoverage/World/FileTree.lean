import PatchCoverage.Number.Decimal
import PatchCoverage.World.PathName

namespace PatchCoverage

/-!
# Files and directories

A file system is a tree of directories with files as leaves.  A name is
followed part by part from the top: every part but the last has to name a
directory that exists, also one that a later `..` leaves again.
-/

/-- A file or a directory with its entries. -/
inductive FileTree where
  /-- A file and its octets. -/
  | file (content : List UInt8)
  /-- A directory and its named entries. -/
  | directory (entries : List (String × FileTree))

/-- Why a file cannot be used. -/
inductive FileProblem where
  /-- Nothing has the name. -/
  | missing
  /-- A part before the last names a file. -/
  | notDirectory
  /-- The name is that of a directory. -/
  | isDirectory
  /-- The name or a part of it is longer than a file system allows. -/
  | nameTooLong
  /-- The name holds a zero character. -/
  | zeroCharacter
  deriving DecidableEq, Repr

/-- The number and the wording that the system gives a problem. -/
def FileProblem.report? : FileProblem → Option (Nat × String)
  | missing => some (2, "No such file or directory")
  | notDirectory => some (20, "Not a directory")
  | isDirectory => some (21, "Is a directory")
  | nameTooLong => some (36, "File name too long")
  | zeroCharacter => none

/-- The system's wording of a problem with a file. -/
def FileProblem.describe (problem : FileProblem) (shownName : String) : String :=
  match problem.report? with
  | some (number, wording) =>
    "[Errno " ++ integerText number ++ "] " ++ wording ++ ": " ++ shownName
  | none => "embedded null byte"

namespace FileTree

/-- The greatest number of octets of one part of a name. -/
def partLimit : Nat := 255

/-- A place in a tree: the parts that lead there from the top, last first, and
what stands there and at each step before. -/
structure Place where
  /-- The parts from the top, last first. -/
  trail : List String
  /-- What stands at the place. -/
  node : FileTree
  /-- What stands above it, nearest first. -/
  above : List FileTree

/-- Follows parts from a place. -/
def walk (place : Place) : List String → Except FileProblem Place
  | [] => .ok place
  | part :: rest =>
    match place.node with
    | file _ => .error .notDirectory
    | directory entries =>
      if partLimit < part.utf8ByteSize then .error .nameTooLong
      else if part = ".." then
        match place.above with
        | [] => walk place rest
        | parent :: above => walk ⟨place.trail.tail, parent, above⟩ rest
      else
        match entries.lookup part with
        | none => .error .missing
        | some node => walk ⟨part :: place.trail, node, place.node :: place.above⟩ rest

/-- The place that parts lead to from the top of a tree. -/
def find (tree : FileTree) (parts : List String) : Except FileProblem Place :=
  walk ⟨[], tree, []⟩ parts

/-- The octets of a file. -/
def read (tree : FileTree) (parts : List String) : Except FileProblem (List UInt8) := do
  match (← tree.find parts).node with
  | file content => .ok content
  | directory _ => .error .isDirectory

/-- Whether parts lead to a file. A name that cannot be followed names none,
unless it is too long to be asked for. -/
def isFile (tree : FileTree) (parts : List String) : Except FileProblem Bool :=
  match tree.find parts with
  | .ok ⟨_, file _, _⟩ => .ok true
  | .ok ⟨_, directory _, _⟩ => .ok false
  | .error .nameTooLong => .error .nameTooLong
  | .error _ => .ok false

/-- The entries of a directory with one of them set; a new one comes last. -/
def setEntry (name : String) (node : FileTree) :
    List (String × FileTree) → List (String × FileTree)
  | [] => [(name, node)]
  | entry :: entries =>
    if entry.1 = name then (name, node) :: entries else entry :: setEntry name node entries

/-- Puts a node at the end of parts without `..`. Directories on the way are
made where nothing stands. -/
def put (node : FileTree) (tree : FileTree) : List String → FileTree
  | [] => node
  | part :: rest =>
    match tree with
    | file _ => directory [(part, put node (directory []) rest)]
    | directory entries =>
      directory (setEntry part (put node ((entries.lookup part).getD (directory [])) rest) entries)

/-- The parts, without `..`, of the file that is appended to, and its octets so
far; a file that does not exist is empty. -/
def appendTarget (tree : FileTree) (parts : List String) :
    Except FileProblem (List String × List UInt8) :=
  match tree.find parts with
  | .ok ⟨trail, file content, _⟩ => .ok (trail.reverse, content)
  | .ok ⟨_, directory _, _⟩ => .error .isDirectory
  | .error .missing =>
    match parts.getLast? with
    | none => .error .missing
    | some name =>
      match tree.find parts.dropLast with
      | .ok ⟨trail, directory _, _⟩ =>
        if name = ".." then .error .missing else .ok ((name :: trail).reverse, [])
      | .ok ⟨_, file _, _⟩ => .error .notDirectory
      | .error problem => .error problem
  | .error problem => .error problem

/-- A tree in which octets are added to the end of a file, which is made if it
does not exist. -/
def append (tree : FileTree) (parts : List String) (octets : List UInt8) :
    Except FileProblem FileTree := do
  let (target, content) ← tree.appendTarget parts
  .ok (put (file (content ++ octets)) tree target)

mutual

/-- Every file below a node with the parts that lead to it. -/
def files (trail : List String) : FileTree → List (List String × List UInt8)
  | file content => [(trail.reverse, content)]
  | directory entries => filesOfEntries trail entries

/-- Every file below the entries of a directory. -/
def filesOfEntries (trail : List String) :
    List (String × FileTree) → List (List String × List UInt8)
  | [] => []
  | (name, node) :: entries => files (name :: trail) node ++ filesOfEntries trail entries

end

end FileTree

end PatchCoverage
