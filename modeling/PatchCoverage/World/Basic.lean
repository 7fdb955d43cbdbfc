import PatchCoverage.Console.Emoji
import PatchCoverage.World.Environment
import PatchCoverage.World.FileTree

namespace PatchCoverage

/-!
# What a run can see

A run reads the environment, the files, its standard input and what `git`
answers, and it knows the current directory and the terminal.

Documents are read with libraries that have their own words for what is wrong in
them, and the terminal has its own emoji.  These are given with the world; the
words are placeholders, and there are no emoji, where nothing is said of them.

A run may read and change every file: there are no permissions, and no file changes but
by the run.
-/

/-- What `git` does once it is started. -/
structure GitReply where
  /-- Everything it prints, on both channels in order. -/
  printed : List UInt8
  /-- Its exit status. -/
  status : Nat

/-- How `git` was started. -/
structure GitStart where
  /-- The directory it was started in. -/
  directory : String
  /-- Its arguments. -/
  arguments : List String
  deriving DecidableEq, Repr

/-- What a run can see. -/
structure World where
  /-- The environment variables. -/
  environment : Environment
  /-- All files, from the top directory. -/
  files : FileTree
  /-- The parts of the current directory. -/
  directory : List String
  /-- What `git` answers, if there is such a program. -/
  git : Option GitReply
  /-- Standard input. -/
  input : List UInt8
  /-- The number of columns of the terminal. -/
  columns : Nat
  /-- The emoji that the terminal knows. -/
  emoji : Console.EmojiCodes := .empty
  /-- What the reader of configurations says of a text that breaks a rule of the
  notation. -/
  documentWording : String → String := fun _ => "<yaml error>"
  /-- What the reader of reports says of octets that break a rule of the notation. -/
  reportWording : List UInt8 → String := fun _ => "<xml error>"

namespace World

/-- The terminal of a run. -/
def terminal (world : World) : Console.Terminal :=
  ⟨world.columns, world.emoji⟩

/-- The parts from the top that a name stands for, if the name can be that of a
file at all. -/
def locate (world : World) (name : PathName) : Except FileProblem (List String) :=
  if name.hasZero then .error .zeroCharacter
  else if PathName.sizeLimit < name.toText.utf8ByteSize then .error .nameTooLong
  else .ok (if name.isAbsolute then name.parts else world.directory ++ name.parts)

/-- The octets of the named file. -/
def read (world : World) (name : PathName) : Except FileProblem (List UInt8) :=
  world.locate name >>= world.files.read

/-- Whether the name is that of a file. A name with a zero character is that of
none. -/
def isFile (world : World) (name : PathName) : Except FileProblem Bool :=
  match world.locate name with
  | .ok parts => world.files.isFile parts
  | .error .nameTooLong => .error .nameTooLong
  | .error _ => .ok false

/-- The world after octets were added to the end of a file. -/
def append (world : World) (name : PathName) (octets : List UInt8) : Except FileProblem World :=
  world.locate name >>= fun parts =>
    (world.files.append parts octets).map fun files => { world with files }

/-- The absolute name of a name, without `..`. -/
def resolve (world : World) (name : PathName) : PathName :=
  name.resolve world.directory

end World

end PatchCoverage
