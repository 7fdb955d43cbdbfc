import PatchCoverage.Text.Quoted
import PatchCoverage.Yaml.Calendar

namespace PatchCoverage.Yaml

/-!
# What can be wrong with a document

Most faults are faults of form, and one cause stands for all of them.  The
others arise when a value is made from text of good form: a number, a date or
a character that does not exist.
-/

/-- Why a document has no value. -/
inductive Fault where
  /-- It breaks a rule of the notation. -/
  | malformed
  /-- An escape names no character. -/
  | noSuchCharacter
  /-- A text is no integer in the given base. -/
  | notInteger (base : Nat) (written : String)
  /-- An integer has too many digits. -/
  | tooManyDigits (count : Nat)
  /-- A text is no number. -/
  | notNumber (written : String)
  /-- A date or time does not exist. -/
  | calendar (problem : CalendarProblem)
  /-- A number is out of range. -/
  | overflow
  /-- A text tagged as a point in time is none. -/
  | notTimestamp
  /-- A text tagged as a truth value is none. -/
  | notTruthValue
  /-- A text tagged as a number is empty. -/
  | emptyNumeral
  deriving DecidableEq, Repr

/-- The wording for an integer text of too many digits. -/
def tooManyDigitsMessage (count : Nat) : String :=
  "Exceeds the limit (4300 digits) for integer string conversion: value has " ++
    integerText count ++ " digits; use sys.set_int_max_str_digits() to increase the limit"

/-- The wording of a fault that is not one of form. -/
def Fault.message? : Fault → Option String
  | noSuchCharacter => some "chr() arg not in range(0x110000)"
  | notInteger base written =>
    some ("invalid literal for int() with base " ++ integerText base ++ ": " ++ quoted written)
  | tooManyDigits count => some (tooManyDigitsMessage count)
  | notNumber written => some ("could not convert string to float: " ++ quoted written)
  | calendar problem => some problem.message
  | _ => none

end PatchCoverage.Yaml
