import PatchCoverage.Number.Literal
import PatchCoverage.Text.Lines
import PatchCoverage.Text.Word

namespace PatchCoverage.Console

/-!
# Actions of tags

A tag whose name begins with `@` has an action: a name, a name with arguments
in parentheses, or a value.  Arguments and values are literals: numbers, texts,
octets, the constants `True`, `False`, `None` and `...`, and tuples, sets and
mappings of literals.  Nothing is done with an action; what counts is whether
it is written as one.
-/

namespace Action

/-- The smallest parts of a literal. -/
inductive Mark where
  /-- A bracket, a comma, a colon or a sign. -/
  | sign (c : Char)
  /-- A number. -/
  | number (imaginary : Bool)
  /-- A text. -/
  | text
  /-- A text of octets. -/
  | octets
  /-- A constant that is written as a word or as three points. -/
  | constant
  /-- The word `set`. -/
  | setWord
  /-- The end of a line outside brackets. -/
  | lineEnd
  deriving DecidableEq, Repr

/-- A hexadecimal digit. -/
def isHexDigit (c : Char) : Bool :=
  c.isDigit || ('a' ≤ c && c ≤ 'f') || ('A' ≤ c && c ≤ 'F')

/-- The number that hexadecimal digits stand for. -/
def hexValue (digits : List Char) : Nat :=
  digits.foldl (fun value c => pushHexDigit value c.toLower) 0

/-- Whether what follows a letter after a backslash is complete. -/
def isCompleteEscape (octets : Bool) (letter : Char) (rest : List Char) : Bool :=
  let digits (count : Nat) := rest.length ≥ count && (rest.take count).all isHexDigit
  if letter = 'x' then digits 2
  else if octets then true
  else if letter = 'u' then digits 4
  else if letter = 'U' then digits 8 && hexValue (rest.take 8) ≤ 0x10FFFF
  else letter ≠ 'N'

/-- What follows a text after its opening quote. A text between single quotes
ends with its line; octets are written in ASCII. -/
def skipText? (raw octets long : Bool) (quote : Char) : List Char → Option (List Char)
  | [] => none
  | '\\' :: c :: rest =>
    if (octets && 128 ≤ c.val) || (!raw && !isCompleteEscape octets c rest) then none
    else skipText? raw octets long quote rest
  | c :: rest =>
    if c = quote && (!long || rest.take 2 = [quote, quote]) then
      some (if long then rest.drop 2 else rest)
    else if (c = '\n' && !long) || (octets && 128 ≤ c.val) then none
    else skipText? raw octets long quote rest

/-- What follows a text from its opening quote on. -/
def skipQuoted? (raw octets : Bool) : List Char → Option (List Char)
  | [] => none
  | quote :: rest =>
    if rest.take 2 = [quote, quote] then skipText? raw octets true quote (rest.drop 2)
    else skipText? raw octets false quote rest

/-- Whether characters are digits, each with at most one underscore in
front. -/
def areDigits (isDigit : Char → Bool) : List Char → Bool
  | [] => true
  | '_' :: c :: rest => isDigit c && areDigits isDigit rest
  | c :: rest => isDigit c && areDigits isDigit rest

/-- The characters of a number at the beginning of a text, and what follows
them; a sign belongs to the number after the letter of an exponent. -/
def takeNumber (before : Char) : List Char → List Char × List Char
  | [] => ([], [])
  | c :: rest =>
    if c.isAlphanum || c = '_' || c = '.' ||
        ((c = '+' || c = '-') && (before = 'e' || before = 'E')) then
      let (number, after) := takeNumber c rest
      (c :: number, after)
    else
      ([], c :: rest)

/-- A number in base ten. An integer does not begin with a zero unless it is
zero, and its digits are counted. -/
def decimal? (characters : List Char) : Option Mark := do
  let imaginary := characters.getLast?.any fun c => c = 'j' || c = 'J'
  let plain ← dropUnderscores? false (if imaginary then characters.dropLast else characters)
  let _ ← readDecimal? plain
  if !imaginary && plain.all Char.isDigit &&
      ((plain.head? == some '0' && plain.any (· != '0')) || digitLimit < plain.length) then none
  else some (.number imaginary)

/-- The number that characters write. -/
def number? : List Char → Option Mark
  | '0' :: letter :: digits =>
    let base (isDigit : Char → Bool) :=
      if !digits.isEmpty && areDigits isDigit digits then some (Mark.number false) else none
    match letter.toLower with
    | 'x' => base isHexDigit
    | 'o' => base fun c => '0' ≤ c && c ≤ '7'
    | 'b' => base fun c => c = '0' || c = '1'
    | _ => decimal? ('0' :: letter :: digits)
  | characters => decimal? characters

/-- The greatest number of brackets that are open at once. -/
def depthLimit : Nat := 200

/-- The parts of a literal; `depth` brackets are open. The fuel has to exceed
the number of characters. -/
def marks? : Nat → Nat → List Char → Option (List Mark)
  | 0, _, _ => none
  | _, _, [] => some []
  | fuel + 1, depth, c :: rest =>
    let followedBy (mark : Mark) (depth : Nat) (rest : List Char) :=
      (marks? fuel depth rest).map (mark :: ·)
    if c = ' ' || c = '\t' || c = '\x0c' then marks? fuel depth rest
    else if c = '#' then marks? fuel depth (rest.dropWhile (· != '\n'))
    else if c = '\n' then
      if depth = 0 then followedBy .lineEnd depth rest else marks? fuel depth rest
    else if c = '\\' then
      match rest with
      | '\n' :: rest => marks? fuel depth rest
      | _ => none
    else if c = '(' || c = '\x7b' then
      if depth < depthLimit then followedBy (.sign c) (depth + 1) rest else none
    else if c = ')' || c = '\x7d' then followedBy (.sign c) (depth - 1) rest
    else if c = ',' || c = ':' || c = '+' || c = '-' then followedBy (.sign c) depth rest
    else if c = '\'' || c = '"' then do
      followedBy .text depth (← skipQuoted? false false (c :: rest))
    else if c.isDigit || (c = '.' && rest.head?.any Char.isDigit) then do
      let (characters, rest) := takeNumber c (c :: rest)
      followedBy (← number? characters) depth rest
    else if c = '.' && rest.take 2 = ['.', '.'] then
      followedBy .constant depth (rest.drop 2)
    else
      let word := (c :: rest).takeWhile isWord
      let after := (c :: rest).dropWhile isWord
      if after.head?.any fun c => c = '\'' || c = '"' then do
        let kind := String.ofList (word.map Char.toLower)
        let octets := kind == "b" || kind == "br" || kind == "rb"
        let raw := kind == "r" || kind == "br" || kind == "rb"
        if octets || raw || kind == "u" then
          followedBy (if octets then .octets else .text) depth (← skipQuoted? raw octets after)
        else none
      else
        match String.ofList word with
        | "True" | "False" | "None" => followedBy .constant depth after
        | "set" => followedBy .setWord depth after
        | _ => none

/-- What can be done with a literal. -/
inductive Kind where
  /-- A real number without a sign. -/
  | real
  /-- A real number with a sign. -/
  | signedReal
  /-- An imaginary number without a sign. -/
  | imaginary
  /-- Any other value that can be a member of a set or a key. -/
  | key
  /-- A value that can be neither. -/
  | compound
  deriving DecidableEq, Repr

/-- The kind of a tuple. -/
def tupleKind (items : List Kind) : Kind :=
  if items.contains .compound then .compound else .key

/-- Whether a value can begin with what comes next. -/
def beginsValue : List Mark → Bool
  | [] => false
  | .lineEnd :: _ => false
  | .sign c :: _ => c = '(' || c = '\x7b' || c = '+' || c = '-'
  | _ => true

mutual

/-- Reads a value: a literal, a number with a sign, or the sum of a real and an
imaginary number. -/
def value? : Nat → List Mark → Option (Kind × List Mark)
  | 0, _ => none
  | fuel + 1, marks => do
    let (first, rest) ←
      match marks with
      | .sign '+' :: rest | .sign '-' :: rest => do
        match ← literal? fuel rest with
        | (.real, rest) => some (.signedReal, rest)
        | (.imaginary, rest) => some (.key, rest)
        | _ => none
      | _ => literal? fuel marks
    match rest with
    | .sign '+' :: rest | .sign '-' :: rest =>
      if first = .real || first = .signedReal then
        match ← literal? fuel rest with
        | (.imaginary, .sign '+' :: _) | (.imaginary, .sign '-' :: _) => none
        | (.imaginary, rest) => some (.key, rest)
        | _ => none
      else none
    | _ => some (first, rest)

/-- Reads a literal. -/
def literal? : Nat → List Mark → Option (Kind × List Mark)
  | 0, _ => none
  | fuel + 1, marks =>
    match marks with
    | .number imaginary :: rest => some (if imaginary then .imaginary else .real, rest)
    | .text :: rest => noneBefore .octets (rest.dropWhile (· == .text))
    | .octets :: rest => noneBefore .text (rest.dropWhile (· == .octets))
    | .constant :: rest => some (.key, rest)
    | .setWord :: .sign '(' :: .sign ')' :: rest => some (.compound, rest)
    | .sign '(' :: .sign ')' :: rest => some (.key, rest)
    | .sign '(' :: rest =>
      match items? fuel rest with
      | some (kinds, comma, .sign ')' :: rest) =>
        match kinds, comma with
        | [kind], false => some (kind, rest)
        | kinds, _ => some (tupleKind kinds, rest)
      | _ => none
    | .sign '\x7b' :: .sign '\x7d' :: rest => some (.compound, rest)
    | .sign '\x7b' :: rest =>
      match items? fuel rest with
      | some ([first], false, .sign ':' :: rest) =>
        if first = .compound then none else (entries? fuel rest).map fun rest => (.compound, rest)
      | some (kinds, _, .sign '\x7d' :: rest) =>
        if kinds.contains .compound then none else some (.compound, rest)
      | _ => none
    | _ => none
where
  /-- A text, unless octets touch it, or the other way round. -/
  noneBefore (other : Mark) (rest : List Mark) : Option (Kind × List Mark) :=
    if rest.head? = some other then none else some (.key, rest)

/-- Reads values between commas; tells whether there was a comma. -/
def items? : Nat → List Mark → Option (List Kind × Bool × List Mark)
  | 0, _ => none
  | fuel + 1, marks => do
    match ← value? fuel marks with
    | (kind, .sign ',' :: rest) =>
      if beginsValue rest then do
        let (kinds, _, rest) ← items? fuel rest
        some (kind :: kinds, true, rest)
      else some ([kind], true, rest)
    | (kind, rest) => some ([kind], false, rest)

/-- Reads the value of an entry and the entries after it, up to the closing
brace. -/
def entries? : Nat → List Mark → Option (List Mark)
  | 0, _ => none
  | fuel + 1, marks => do
    match ← value? fuel marks with
    | (_, .sign '\x7d' :: rest) => some rest
    | (_, .sign ',' :: .sign '\x7d' :: rest) => some rest
    | (_, .sign ',' :: rest) =>
      match ← value? fuel rest with
      | (.compound, _) => none
      | (_, .sign ':' :: rest) => entries? fuel rest
      | _ => none
    | _ => none

end

/-- Whether characters are a literal, or several between commas. None of them
is the zero character. -/
def isLiteral (characters : List Char) : Bool :=
  let characters := unifyNewlines characters
  match marks? (characters.length + 1) 0 characters with
  | none => false
  | some marks =>
    !characters.contains '\x00' &&
    match items? (4 * marks.length + 4) (marks.dropWhile (· == .lineEnd)) with
    | some (_, _, rest) => rest.all (· == .lineEnd)
    | none => false

end Action

/-- Whether a text is an action: a name, arguments in parentheses with or
without a name before them, or a literal. -/
def isAction (text : String) : Bool :=
  let characters := trimBoth isBlank text.toList
  let arguments := characters.dropWhile fun c => isWord c || c = '.'
  arguments.isEmpty ||
    Action.isLiteral
      (if arguments.head? = some '(' && arguments.getLast? = some ')' && !arguments.contains '\n'
        then arguments else characters)

end PatchCoverage.Console
