import PatchCoverage.Text.Lines

namespace PatchCoverage.Yaml

/-!
# Tags and plain words

A tag says what kind of value a node stands for.  A plain text without a tag
gets one from its form: words for truth values and the missing value, numbers
in several bases, dates.  Everything else is a text.
-/

/-- The kind of value that a node stands for. -/
inductive Tag where
  /-- The missing value. -/
  | null
  /-- A truth value. -/
  | bool
  /-- An integer. -/
  | integer
  /-- Any other number. -/
  | number
  /-- Octets in base 64. -/
  | octets
  /-- A day or a point in time. -/
  | timestamp
  /-- An ordered list of keys with values. -/
  | orderedPairs
  /-- A set. -/
  | members
  /-- A text. -/
  | string
  /-- A list. -/
  | sequence
  /-- A mapping. -/
  | mapping
  /-- The key that takes in the entries of another mapping. -/
  | merge
  /-- The key of a mapping's main value. -/
  | mainValue
  /-- A kind that has no meaning here. -/
  | unknown
  deriving DecidableEq, Repr

/-- What the tags of the notation begin with. -/
def coreTagBeginning : String := "tag:yaml.org,2002:"

/-- The kinds that have tags, by the rest of their tag. -/
def coreTags : List (String × Tag) :=
  [("null", .null), ("bool", .bool), ("int", .integer), ("float", .number), ("binary", .octets),
    ("timestamp", .timestamp), ("omap", .orderedPairs), ("pairs", .orderedPairs),
    ("set", .members), ("str", .string), ("seq", .sequence), ("map", .mapping),
    ("merge", .merge), ("value", .mainValue)]

/-- The kind that a complete tag names. -/
def Tag.ofText (text : String) : Tag :=
  ((coreTags.find? fun (name, _) => coreTagBeginning ++ name == text).map (·.2)).getD .unknown

/-- Whether a node of this kind holds other nodes. -/
def Tag.isContainer : Tag → Bool
  | orderedPairs | members | sequence | mapping => true
  | _ => false

/-! ## Forms of plain texts -/

/-- Words for truth values. -/
def truthWords : List String :=
  ["yes", "Yes", "YES", "no", "No", "NO", "true", "True", "TRUE", "false", "False", "FALSE",
    "on", "On", "ON", "off", "Off", "OFF"]

/-- Words for the missing value. -/
def nullWords : List String :=
  ["~", "null", "Null", "NULL", ""]

/-- Drops one sign in front. -/
def dropSign : List Char → List Char
  | '-' :: rest => rest
  | '+' :: rest => rest
  | characters => characters

/-- A decimal digit or an underscore. -/
def isLooseDigit (c : Char) : Bool :=
  c.isDigit || c == '_'

/-- A digit and then digits or underscores. -/
def isLooseNumber : List Char → Bool
  | [] => false
  | c :: rest => c.isDigit && rest.all isLooseDigit

/-- A loose number that does not begin with zero. -/
def isPositiveNumber (characters : List Char) : Bool :=
  isLooseNumber characters && characters.head? != some '0'

/-- One or two digits below sixty. -/
def isSixtieth : List Char → Bool
  | [c] => c.isDigit
  | [c, d] => '0' ≤ c && c ≤ '5' && d.isDigit
  | _ => false

/-- Whether the text is an integer in one of the known bases. -/
def isIntegerForm (characters : List Char) : Bool :=
  match dropSign characters with
  | ['0'] => true
  | '0' :: 'b' :: digits => !digits.isEmpty && digits.all fun c => c == '0' || c == '1' || c == '_'
  | '0' :: 'x' :: digits =>
    !digits.isEmpty && digits.all fun c =>
      isLooseDigit c || ('a' ≤ c && c ≤ 'f') || ('A' ≤ c && c ≤ 'F')
  | '0' :: digits => digits.all fun c => ('0' ≤ c && c ≤ '7') || c == '_'
  | digits =>
    isPositiveNumber digits ||
      match piecesBetween ':' digits with
      | first :: second :: rest => isPositiveNumber first && (second :: rest).all isSixtieth
      | _ => false

/-- An exponent with its sign, or nothing. -/
def isExponentForm : List Char → Bool
  | [] => true
  | e :: sign :: digits =>
    (e == 'e' || e == 'E') && (sign == '-' || sign == '+') && !digits.isEmpty &&
      digits.all Char.isDigit
  | _ => false

/-- Whether the text is a number with a point, or a word for infinity or for
no number. -/
def isNumberForm (characters : List Char) : Bool :=
  let unsigned := dropSign characters
  let whole := unsigned.takeWhile (· != '.')
  let places := (unsigned.dropWhile (· != '.')).drop 1
  let hasPoint := unsigned.contains '.'
  let afterPlaces := places.dropWhile isLooseDigit
  (hasPoint && isLooseNumber whole && isExponentForm afterPlaces) ||
    (hasPoint && whole.isEmpty && unsigned.length == characters.length &&
      isLooseNumber (places.takeWhile isLooseDigit) && isExponentForm afterPlaces) ||
    (hasPoint && places.all isLooseDigit &&
      match piecesBetween ':' whole with
      | first :: second :: rest => isLooseNumber first && (second :: rest).all isSixtieth
      | _ => false) ||
    [".inf", ".Inf", ".INF"].contains (String.ofList unsigned) ||
    [".nan", ".NaN", ".NAN"].contains (String.ofList characters)

/-- The numbers of a date and, if given, of a time. -/
structure TimestampForm where
  /-- The year. -/
  year : List Char
  /-- The month. -/
  month : List Char
  /-- The day. -/
  day : List Char
  /-- Hour, minute and second. -/
  time : Option (List Char × List Char × List Char)
  /-- The digits behind the point of the seconds. -/
  fraction : List Char
  /-- The distance from universal time: whether it is negative, hours and
  minutes. -/
  offset : Option (Bool × List Char × List Char)

/-- One or two digits in front, and what follows them. -/
def takeShortNumber? : List Char → Option (List Char × List Char)
  | c :: d :: rest =>
    if c.isDigit then if d.isDigit then some ([c, d], rest) else some ([c], d :: rest) else none
  | [c] => if c.isDigit then some ([c], []) else none
  | [] => none

/-- A character in front, and what follows it. -/
def takeMark? (mark : Char) : List Char → Option (List Char)
  | c :: rest => if c = mark then some rest else none
  | [] => none

/-- Two digits in front, and what follows them. -/
def takeTwoDigits? : List Char → Option (List Char × List Char)
  | c :: d :: rest => if c.isDigit && d.isDigit then some ([c, d], rest) else none
  | _ => none

/-- Reads a distance from universal time up to the end of the text. -/
def readOffset? (characters : List Char) : Option (Option (Bool × List Char × List Char)) :=
  if characters.isEmpty then some none
  else
    match characters.dropWhile fun c => c == ' ' || c == '\t' with
    | ['Z'] => some (some (false, ['0'], ['0']))
    | sign :: rest =>
      if sign = '-' || sign = '+' then
        match takeShortNumber? rest with
        | some (hours, []) => some (some (sign == '-', hours, ['0']))
        | some (hours, ':' :: rest) =>
          match takeTwoDigits? rest with
          | some (minutes, []) => some (some (sign == '-', hours, minutes))
          | _ => none
        | _ => none
      else none
    | [] => none

/-- Drops what stands between a date and a time. -/
def dropTimeSeparator? : List Char → Option (List Char)
  | 'T' :: rest => some rest
  | 't' :: rest => some rest
  | ' ' :: rest => some (rest.dropWhile fun c => c == ' ' || c == '\t')
  | '\t' :: rest => some (rest.dropWhile fun c => c == ' ' || c == '\t')
  | _ => none

/-- Reads a date with or without a time. -/
def readTimestampForm? (characters : List Char) : Option TimestampForm := do
  let year := characters.take 4
  if !(year.length == 4 && year.all Char.isDigit) then none
  let (month, rest) ← takeMark? '-' (characters.drop 4) >>= takeShortNumber?
  let (day, rest) ← takeMark? '-' rest >>= takeShortNumber?
  if rest.isEmpty then
    some ⟨year, month, day, none, [], none⟩
  else
    let (hour, rest) ← dropTimeSeparator? rest >>= takeShortNumber?
    let (minute, rest) ← takeMark? ':' rest >>= takeTwoDigits?
    let (second, rest) ← takeMark? ':' rest >>= takeTwoDigits?
    let (fraction, rest) :=
      match rest with
      | '.' :: rest => (rest.takeWhile Char.isDigit, rest.dropWhile Char.isDigit)
      | _ => ([], rest)
    let offset ← readOffset? rest
    some ⟨year, month, day, some (hour, minute, second), fraction, offset⟩

/-- Whether a plain text is a date: without a time, month and day have two
digits. -/
def isTimestampForm (characters : List Char) : Bool :=
  match readTimestampForm? characters with
  | some form => form.time.isSome || characters.length == 10
  | none => false

/-- A text without one line feed at its end, which does not count for the form
of a plain text. A text that begins with a line feed is left as it is. -/
def withoutLineEnd (text : String) : String :=
  let characters := text.toList
  if characters.getLast? = some '\n' && characters.head? != some '\n' then
    String.ofList characters.dropLast
  else text

/-- The kind of value that a plain text stands for. -/
def Tag.ofPlain (text : String) : Tag :=
  let text := withoutLineEnd text
  let characters := text.toList
  if truthWords.contains text then .bool
  else if isNumberForm characters then .number
  else if isIntegerForm characters then .integer
  else if text == "<<" then .merge
  else if nullWords.contains text then .null
  else if isTimestampForm characters then .timestamp
  else if text == "=" then .mainValue
  else .string

end PatchCoverage.Yaml
