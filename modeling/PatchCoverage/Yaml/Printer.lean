import PatchCoverage.Number.Decimal
import PatchCoverage.Text.Quoted
import PatchCoverage.Yaml.Tag

namespace PatchCoverage.Yaml

/-!
# Writing texts and numbers in YAML

A text is written plainly where it would be read back as the same text, else
between single quotes, and between double quotes with escapes where it holds
anything but printing ASCII characters and line ends.  A long text is broken
into lines at blanks; the lines after the first are indented.
-/

/-- The column after which a text goes on in the next line. -/
def lineWidth : Nat := 80

/-- Whether a text without escapes can hold a character. -/
def isOrdinary (c : Char) : Bool :=
  c == '\n' || (' ' ≤ c && c ≤ '~')

/-- Whether one character comes directly before another. -/
def hasPair (first second : Char) : List Char → Bool
  | a :: b :: rest => (a == first && b == second) || hasPair first second (b :: rest)
  | _ => false

/-- Whether a text can stand between single quotes. -/
def fitsSingleQuotes (text : List Char) : Bool :=
  text.all isOrdinary && !hasPair ' ' '\n' text && !hasPair '\n' ' ' text

/-- Characters that a plain text cannot begin with. -/
def openingIndicators : List Char :=
  "#,[]\x7b\x7d&*!|>'\"%@\x60".toList

/-- Whether the first characters of a text have a meaning of their own. -/
def beginsWithIndicator (text : List Char) : Bool :=
  ['-', '-', '-'].isPrefixOf text || ['.', '.', '.'].isPrefixOf text ||
    match text with
    | [] => false
    | c :: rest =>
      openingIndicators.contains c || ([':', '?', '-'].contains c && rest.head?.all (· == ' '))

/-- Whether later characters of a text have a meaning of their own: a colon
before a blank or the end, or a hash sign after a blank. -/
def holdsIndicator : List Char → Bool
  | [] => false
  | ':' :: rest => rest.head?.all (· == ' ') || holdsIndicator rest
  | ' ' :: rest => rest.head? == some '#' || holdsIndicator rest
  | _ :: rest => holdsIndicator rest

/-- Whether a text can be written without quotes. -/
def fitsPlain (text : String) : Bool :=
  let characters := text.toList
  Tag.ofPlain text == .string && characters.all (fun c => ' ' ≤ c && c ≤ '~') &&
    characters.head? != some ' ' && characters.getLast? != some ' ' &&
    !beginsWithIndicator characters && !holdsIndicator characters

/-- A line's end and the indentation of the next line. -/
def breakLine (indent : Nat) : List Char :=
  '\n' :: List.replicate indent ' '

/-- A text as it stands, or between single quotes, where a quote is doubled,
from its first character on. A single blank behind the line's width becomes a
line's end. A run of line ends is written with one more, and the line after it
is indented. -/
def writeFlowing (inQuotes : Bool) (indent column : Nat) (previous : Option Char) :
    List Char → List Char
  | [] => []
  | c :: rest =>
    if c = ' ' then
      if lineWidth < column && previous.any (· != ' ') && rest.head?.any (· != ' ') then
        breakLine indent ++ writeFlowing inQuotes indent indent (some c) rest
      else
        c :: writeFlowing inQuotes indent (column + 1) (some c) rest
    else if c = '\n' then
      let begun := if previous = some '\n' then [c] else [c, c]
      if rest.head? = some '\n' then
        begun ++ writeFlowing inQuotes indent 0 (some c) rest
      else
        begun ++ List.replicate indent ' ' ++ writeFlowing inQuotes indent indent (some c) rest
    else if inQuotes && c = '\'' then
      c :: c :: writeFlowing inQuotes indent (column + 2) (some c) rest
    else
      c :: writeFlowing inQuotes indent (column + 1) (some c) rest

/-- Escapes of one letter. -/
def letterEscapes : List (Char × Char) :=
  [('\x00', '0'), ('\x07', 'a'), ('\x08', 'b'), ('\t', 't'), ('\n', 'n'), ('\x0b', 'v'),
    ('\x0c', 'f'), ('\r', 'r'), ('\x1b', 'e'), ('"', '"'), ('\\', '\\'), ('\u0085', 'N'),
    ('\u00a0', '_'), ('\u2028', 'L'), ('\u2029', 'P')]

/-- An escape with capital hexadecimal digits. -/
def numberEscape (code : Nat) : List Char :=
  match escapeCodePoint code with
  | slash :: kind :: digits => slash :: kind :: digits.map Char.toUpper
  | escape => escape

/-- The escape of a character that has to be escaped between double quotes. -/
def escape? (c : Char) : Option (List Char) :=
  match letterEscapes.lookup c with
  | some letter => some ['\\', letter]
  | none => if ' ' ≤ c && c ≤ '~' then none else some (numberEscape (codePoint c))

/-- A line's end between double quotes: a backslash in front of it, and another
in front of a blank that begins the next line. -/
def breakQuoted (indent : Nat) (next : Option Char) : List Char :=
  '\\' :: breakLine indent ++ if next = some ' ' then ['\\'] else []

/-- The column after a line's end between double quotes. -/
def columnAfterBreak (indent : Nat) (next : Option Char) : Nat :=
  if next = some ' ' then indent + 1 else indent

/-- A text between double quotes, from a character on. `first` tells whether it
is the first one, and `fresh` whether an escape or a line's end comes just
before. -/
def writeEscaped (indent column : Nat) (first fresh : Bool) : List Char → List Char
  | [] => []
  | c :: rest =>
    let inner := !first && !rest.isEmpty
    match escape? c with
    | some escape =>
      let column := column + escape.length
      if inner && lineWidth + 1 < column then
        escape ++ breakQuoted indent rest.head? ++
          writeEscaped indent (columnAfterBreak indent rest.head?) false true rest
      else
        escape ++ writeEscaped indent column false true rest
    | none =>
      if inner && (c == ' ' || fresh) && lineWidth < column then
        breakQuoted indent (some c) ++
          c :: writeEscaped indent (columnAfterBreak indent (some c) + 1) false false rest
      else
        c :: writeEscaped indent (column + 1) false false rest

/-- A text as a value that begins in the given column; its further lines have
the given indentation. -/
def writeText (indent column : Nat) (text : String) : List Char :=
  if fitsPlain text then
    writeFlowing false indent column none text.toList
  else if fitsSingleQuotes text.toList then
    '\'' :: writeFlowing true indent (column + 1) none text.toList ++ ['\'']
  else
    '"' :: writeEscaped indent (column + 1) true false text.toList ++ ['"']

/-- A numeral with a point in front of its exponent. -/
def withPoint (numeral : List Char) : List Char :=
  let mantissa := numeral.takeWhile (· != 'e')
  if mantissa.contains '.' then numeral
  else mantissa ++ ['.', '0'] ++ numeral.dropWhile (· != 'e')

/-- A number as a value. -/
def writeNumber : Binary64 → List Char
  | .nan => ".nan".toList
  | .infinity false => ".inf".toList
  | .infinity true => "-.inf".toList
  | value => withPoint value.shortestText.toList

/-- A truth value. -/
def writeTruth (value : Bool) : List Char :=
  (if value then "true" else "false").toList

end PatchCoverage.Yaml
