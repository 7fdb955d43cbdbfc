import PatchCoverage.Number.Decimal
import PatchCoverage.Text.Quoted

namespace PatchCoverage

/-!
# Names of commits

The two ends of a diff are named by refs.  A ref becomes part of an argument
of `git`, so it is checked first: it can neither be read as an option nor hold
the operators of a range, and it keeps to the characters that names of
branches may have.  The first rule that a ref breaks is reported.
-/

/-- The rule that a text breaks as a ref. -/
inductive RefProblem where
  /-- It is empty. -/
  | empty
  /-- It is too long. -/
  | tooLong
  /-- It holds a character that no ref may hold. -/
  | unsafeCharacters (ref : String)
  /-- It holds an at sign with an opening brace. -/
  | selector
  /-- It begins with a dash. -/
  | leadingDash
  /-- It holds two dots in a row. -/
  | doubleDot
  deriving DecidableEq, Repr

namespace RefProblem

/-- The greatest number of characters of a ref. -/
def lengthLimit : Nat := 255

/-- A control, a blank or one of the operators that name relatives of a
commit. -/
def isUnsafe (c : Char) : Bool :=
  c.toNat ≤ 0x20 || c.toNat == 0x7f || "~^:?*[\\".toList.contains c

/-- Whether two characters stand next to each other somewhere. -/
def holdsPair (first second : Char) : List Char → Bool
  | a :: b :: rest => (a == first && b == second) || holdsPair first second (b :: rest)
  | _ => false

/-- The first rule that a ref breaks. -/
def of? (ref : String) : Option RefProblem :=
  let characters := ref.toList
  if characters.isEmpty then some empty
  else if lengthLimit < characters.length then some tooLong
  else if characters.any isUnsafe then some (unsafeCharacters ref)
  else if holdsPair '@' '\x7b' characters then some selector
  else if characters.head? == some '-' then some leadingDash
  else if holdsPair '.' '.' characters then some doubleDot
  else none

/-- The wording of a broken rule. -/
def message : RefProblem → String
  | empty => "Git ref must not be empty"
  | tooLong => "Git ref exceeds " ++ integerText lengthLimit ++ " characters"
  | unsafeCharacters ref => "Git ref contains unsafe characters: " ++ quoted ref
  | selector => "Git ref must not contain '@\x7b'"
  | leadingDash => "Git ref must not start with a dash"
  | doubleDot => "Git ref must not contain '..'"

end RefProblem

/-- The argument that names all commits of `head` since it left `base`. -/
def refRange (base head : String) : String :=
  base ++ "..." ++ head

end PatchCoverage
