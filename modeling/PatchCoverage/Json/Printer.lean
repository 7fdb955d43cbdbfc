import PatchCoverage.Json.Basic
import PatchCoverage.Number.Decimal
import PatchCoverage.Text.Quoted

namespace PatchCoverage

/-!
# Writing JSON

A document is laid out one item a line, each level indented by two more
blanks; empty lists and objects stay on their line.  Numbers are written with
the fewest digits that read back.  A text escapes quotes, backslashes and
controls; `Alphabet.ascii` also escapes what lies beyond ASCII, as 16-bit
units.
-/

namespace Json

/-- Which characters a text may hold unescaped. -/
inductive Alphabet where
  /-- Every character but controls. -/
  | unicode
  /-- Printing ASCII characters. -/
  | ascii
  deriving DecidableEq

/-- One 16-bit unit as an escape. -/
def escapeUnit (unit : Nat) : List Char :=
  '\\' :: 'u' :: hexDigits 4 unit

/-- A code point as one unit, or as the two units of a pair. -/
def escapeUnits (code : Nat) : List Char :=
  if code < 0x10000 then escapeUnit code
  else
    escapeUnit (0xD800 + (code - 0x10000) / 1024) ++
      escapeUnit (0xDC00 + (code - 0x10000) % 1024)

/-- One character of a text. -/
def writeCharacter (alphabet : Alphabet) (c : Char) : List Char :=
  if c = '"' || c = '\\' then ['\\', c]
  else if c = '\n' then ['\\', 'n']
  else if c = '\r' then ['\\', 'r']
  else if c = '\t' then ['\\', 't']
  else if c = '\x08' then ['\\', 'b']
  else if c = '\x0c' then ['\\', 'f']
  else if c.val < 32 || (alphabet = .ascii && 127 ≤ c.val) then escapeUnits c.toNat
  else [c]

/-- A text in quotes. -/
def writeString (alphabet : Alphabet) (text : String) : List Char :=
  '"' :: text.toList.flatMap (writeCharacter alphabet) ++ ['"']

/-- A number; the three that JSON has no numeral for are written as words. -/
def writeNumber : Binary64 → List Char
  | .nan => "NaN".toList
  | .infinity false => "Infinity".toList
  | .infinity true => "-Infinity".toList
  | value => value.shortestText.toList

/-- A line's end and the indentation of a level. -/
def lineBreak (level : Nat) : List Char :=
  '\n' :: List.replicate (2 * level) ' '

mutual

/-- A document whose inner lines are indented by more than `level`. -/
def write (alphabet : Alphabet) (level : Nat) : Json → List Char
  | .null => "null".toList
  | .bool true => "true".toList
  | .bool false => "false".toList
  | .integer value => (integerText value).toList
  | .number value => writeNumber value
  | .string value => writeString alphabet value
  | .array [] => ['[', ']']
  | .array (item :: items) =>
    '[' :: lineBreak (level + 1) ++ write alphabet (level + 1) item ++
      writeItems alphabet level items
  | .object [] => ['{', '}']
  | .object ((name, value) :: fields) =>
    '{' :: lineBreak (level + 1) ++ writeString alphabet name ++ ':' :: ' ' ::
      write alphabet (level + 1) value ++ writeFields alphabet level fields

/-- The items after the first, and the end of the list. -/
def writeItems (alphabet : Alphabet) (level : Nat) : List Json → List Char
  | [] => lineBreak level ++ [']']
  | item :: items =>
    ',' :: lineBreak (level + 1) ++ write alphabet (level + 1) item ++
      writeItems alphabet level items

/-- The fields after the first, and the end of the object. -/
def writeFields (alphabet : Alphabet) (level : Nat) : List (String × Json) → List Char
  | [] => lineBreak level ++ ['}']
  | (name, value) :: fields =>
    ',' :: lineBreak (level + 1) ++ writeString alphabet name ++ ':' :: ' ' ::
      write alphabet (level + 1) value ++ writeFields alphabet level fields

end

/-- The text of a document. -/
def text (alphabet : Alphabet) (document : Json) : String :=
  String.ofList (write alphabet 0 document)

end Json

end PatchCoverage
