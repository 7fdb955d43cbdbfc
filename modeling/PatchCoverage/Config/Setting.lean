import PatchCoverage.Number.Literal
import PatchCoverage.Text.Blank
import PatchCoverage.Text.LetterCase
import PatchCoverage.Yaml.Value

namespace PatchCoverage

/-!
# Reading single settings

A setting is a value of the configuration file that is read as a number, as a
truth value or as a text.  Numbers and truth values may be written as texts;
anything else of the wrong kind is an error that names the setting and quotes
the value.
-/

/-- Why a setting cannot be read. -/
inductive SettingError where
  /-- It is no number. -/
  | notNumber (key shown : String)
  /-- It is no truth value. -/
  | notTruthValue (key shown : String)
  /-- An integer in it has too many digits to be written. -/
  | integerTooLong
  /-- It is an integer beyond the range of numbers. -/
  | overflow
  deriving DecidableEq, Repr

/-- The wording for an integer with too many digits to be written. -/
def integerTooLongMessage : String :=
  "Exceeds the limit (4300 digits) for integer string conversion; " ++
    "use sys.set_int_max_str_digits() to increase the limit"

/-- The wording of an error that has one. -/
def SettingError.message? : SettingError → Option String
  | notNumber key shown => some (key ++ " must be a number (got: " ++ shown ++ ")")
  | notTruthValue key shown => some (key ++ " must be true or false (got: " ++ shown ++ ")")
  | integerTooLong => some integerTooLongMessage
  | overflow => none

namespace Setting

/-- An error that quotes a value, if the value can be written. -/
def quoting {α : Type} (value : Yaml.Value) (error : String → SettingError) :
    Except SettingError α :=
  if value.isWritable then .error (error value.shown) else .error .integerTooLong

/-- A setting read as a number. -/
def number (key : String) (value : Yaml.Value) : Except SettingError Binary64 :=
  match value with
  | .integer number => (Binary64.ofInt number).mapError fun _ => .overflow
  | .number number => .ok number
  | .string text =>
    match readNumber? text with
    | some number => .ok number
    | none => quoting value (.notNumber key)
  | _ => quoting value (.notNumber key)

/-- Words for true. -/
def trueWords : List String := ["true", "yes", "on", "1"]

/-- Words for false. -/
def falseWords : List String := ["false", "no", "off", "0"]

/-- A setting read as a truth value. -/
def truth (key : String) (value : Yaml.Value) : Except SettingError Bool :=
  match value with
  | .bool truth => .ok truth
  | .string text =>
    let word := lowerCase (trimBlank text)
    if trueWords.contains word then .ok true
    else if falseWords.contains word then .ok false
    else quoting value (.notTruthValue key)
  | _ => quoting value (.notTruthValue key)

/-- A setting read as a text. -/
def text (value : Yaml.Value) : Except SettingError String :=
  if value.isWritable then .ok value.text else .error .integerTooLong

end Setting

end PatchCoverage
