import PatchCoverage.Json.Reader
import PatchCoverage.Number.Literal
import PatchCoverage.Xml.Element
import PatchCoverage.Xml.Name

namespace PatchCoverage.Xml

/-!
# References and skipped parts

What may stand almost anywhere in a document: references to characters and
entities, comments and processing instructions.  No entity but the five that
need no declaration has a text here.
-/

/-- What a reference stands for. -/
inductive Reference where
  /-- A character. -/
  | character (c : Char)
  /-- An entity that was not declared. -/
  | undeclared (name : List Char)

/-- The entities that need no declaration. -/
def standardEntities : List (String × Char) :=
  [("lt", '<'), ("gt", '>'), ("amp", '&'), ("apos", '\''), ("quot", '"')]

/-- The number that hexadecimal digits stand for. -/
def hexNumber (digits : List Char) : Nat :=
  digits.foldl (fun value c => value * 16 + (Json.hexDigit? c).getD 0) 0

/-- The character with a number, if a document may hold it. -/
def characterOf? (code : Nat) : Option Char :=
  if 0x110000 ≤ code || (0xD800 ≤ code && code < 0xE000) then none
  else if isXmlCharacter (Char.ofNat code) then some (Char.ofNat code)
  else none

/-- Reads a reference after its ampersand, up to and including the semicolon. -/
def takeReference? (text : List Char) : Option (Reference × List Char) :=
  let number (digits : List Char) (value : Nat) (rest : List Char) :=
    match rest with
    | ';' :: rest =>
      if digits.isEmpty then none
      else (characterOf? value).map fun c => (Reference.character c, rest)
    | _ => none
  match text with
  | '#' :: 'x' :: rest =>
    let digits := rest.takeWhile fun c => (Json.hexDigit? c).isSome
    number digits (hexNumber digits) (rest.drop digits.length)
  | '#' :: rest =>
    let digits := rest.takeWhile Char.isDigit
    number digits (digitsValue digits) (rest.drop digits.length)
  | _ =>
    match takeName? text with
    | some (name, ';' :: rest) =>
      match standardEntities.lookup (String.ofList name) with
      | some c => some (.character c, rest)
      | none => some (.undeclared name, rest)
    | _ => none

/-- What follows a comment whose opening was passed. -/
def skipComment? : List Char → Option (List Char)
  | '-' :: '-' :: '>' :: rest => some rest
  | '-' :: '-' :: _ => none
  | c :: rest => if isXmlCharacter c then skipComment? rest else none
  | [] => none

/-- What follows the end of an instruction. -/
def skipToInstructionEnd? : List Char → Option (List Char)
  | '?' :: '>' :: rest => some rest
  | c :: rest => if isXmlCharacter c then skipToInstructionEnd? rest else none
  | [] => none

/-- What follows a processing instruction whose opening was passed. Its target
is not `xml` in any case of letters. -/
def skipInstruction? (text : List Char) : Option (List Char) :=
  match takeName? text with
  | none => none
  | some (target, rest) =>
    if target.map Char.toLower == ['x', 'm', 'l'] then none
    else
      match rest with
      | '?' :: '>' :: rest => some rest
      | c :: _ => if isSpace c then skipToInstructionEnd? rest else none
      | [] => none

/-- What follows a section of plain text whose opening was passed. -/
def skipPlainSection? : List Char → Option (List Char)
  | ']' :: ']' :: '>' :: rest => some rest
  | c :: rest => if isXmlCharacter c then skipPlainSection? rest else none
  | [] => none

/-- Drops white space. -/
def skipSpaces (text : List Char) : List Char :=
  text.dropWhile isSpace

/-- Whether undeclared entities may be left out of attribute values, because
their declarations may stand outside of the document. -/
structure EntityPolicy where
  /-- Whether an undeclared entity is left out and not refused. -/
  mayBeOutside : Bool

/-- The text of an attribute value up to its closing quote, with references
resolved and white space as spaces; `value` holds the text so far, last
character first. Quotes are passed over where `quote?` is none. -/
def readAttributeText (policy : EntityPolicy) (quote : Option Char) (value : List Char) :
    List Char → Nat → Option (List Char × List Char)
  | [], _ => if quote.isNone then some (value.reverse, []) else none
  | _, 0 => none
  | c :: rest, fuel + 1 =>
    if some c = quote then some (value.reverse, rest)
    else if c = '<' then none
    else if c = '&' then
      match takeReference? rest with
      | none => none
      | some (.character c, rest) => readAttributeText policy quote (c :: value) rest fuel
      | some (.undeclared _, rest) =>
        if policy.mayBeOutside then readAttributeText policy quote value rest fuel else none
    else if c = '\r' then
      readAttributeText policy quote (' ' :: value)
        (match rest with | '\n' :: rest => rest | _ => rest) fuel
    else if isSpace c then readAttributeText policy quote (' ' :: value) rest fuel
    else if isXmlCharacter c then readAttributeText policy quote (c :: value) rest fuel
    else none

/-- Text with runs of spaces as one, and none around it. -/
def collapseSpaces (text : List Char) : List Char :=
  let rec collapse : List Char → List Char
    | ' ' :: ' ' :: rest => collapse (' ' :: rest)
    | c :: rest => c :: collapse rest
    | [] => []
  trimBoth (· == ' ') (collapse text)

end PatchCoverage.Xml
