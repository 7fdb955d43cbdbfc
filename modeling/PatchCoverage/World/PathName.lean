import PatchCoverage.Text.Lines

namespace PatchCoverage

/-!
# Names of files

The name of a file is a list of parts below an anchor.  Repeated slashes, a
slash at the end and parts that are a single dot have no meaning and are
dropped; the part `..` is kept, because what it means depends on the
directories that exist.
-/

/-- The name of a file or directory. -/
structure PathName where
  /-- The slashes in front: none for a name that is relative, else one, or two
  where exactly two were written. -/
  anchor : String
  /-- The parts, none of them empty or a single dot. -/
  parts : List String
  deriving DecidableEq, Repr

namespace PathName

/-- The slashes in front of a name. -/
def anchorOf : List Char → String
  | '/' :: '/' :: '/' :: _ => "/"
  | '/' :: '/' :: _ => "//"
  | '/' :: _ => "/"
  | _ => ""

/-- The parts of a text that mean something. -/
def partsOf (characters : List Char) : List String :=
  ((piecesBetween '/' characters).map String.ofList).filter fun part => part != "" && part != "."

/-- The name that a text writes. -/
def ofText (text : String) : PathName :=
  ⟨anchorOf text.toList, partsOf text.toList⟩

/-- Whether a name does not depend on the current directory. -/
def isAbsolute (name : PathName) : Bool :=
  !name.anchor.isEmpty

/-- The text of a name; the current directory itself is a dot. -/
def toText (name : PathName) : String :=
  let joined := "/".intercalate name.parts
  if name.anchor.isEmpty && name.parts.isEmpty then "." else name.anchor ++ joined

/-- Whether a name holds a zero character, which no file's name does. -/
def hasZero (name : PathName) : Bool :=
  name.parts.any fun part => part.toList.contains '\x00'

/-- The greatest number of octets of a name. -/
def sizeLimit : Nat := 4095

/-- A name below a directory; an absolute name stays as it is. -/
def join (directory name : PathName) : PathName :=
  if name.isAbsolute then name else ⟨directory.anchor, directory.parts ++ name.parts⟩

/-- Takes back the part before each `..`; `done` holds the parts so far, last
first. At the top there is nothing to take back. -/
def foldParents (done : List String) : List String → List String
  | [] => done.reverse
  | part :: rest =>
    if part = ".." then foldParents done.tail rest else foldParents (part :: done) rest

/-- The absolute name without `..` of a name read in `current`. -/
def resolve (current : List String) (name : PathName) : PathName :=
  ⟨"/", foldParents [] (if name.isAbsolute then name.parts else current ++ name.parts)⟩

end PathName

end PatchCoverage
