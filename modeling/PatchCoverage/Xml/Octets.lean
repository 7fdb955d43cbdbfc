import PatchCoverage.Text.Utf8
import PatchCoverage.Xml.Charset
import PatchCoverage.Xml.Element
import PatchCoverage.Xml.Name

namespace PatchCoverage.Xml

/-!
# From octets to the characters of a document

The first octets of a document tell how wide its characters are; then its
declaration may name the character set.  The name has to agree with what the
first octets told.

Where octets make up no character, the characters end with a zero, which no
document may hold: what comes before it can still be read.
-/

/-- How a document is written, as far as its first octets tell. -/
inductive Width where
  /-- UTF-8, or another set whose lower half is ASCII. -/
  | octets
  /-- Units of 16 bits. -/
  | units (bigEndian : Bool)
  deriving DecidableEq, Repr

/-- The width of the characters, and the octets behind a byte order mark. -/
def detectWidth : List UInt8 → Width × List UInt8
  | 0xEF :: 0xBB :: 0xBF :: rest => (.octets, rest)
  | 0xFE :: 0xFF :: rest => (.units true, rest)
  | 0xFF :: 0xFE :: rest => (.units false, rest)
  | 0 :: second :: rest => (.units true, 0 :: second :: rest)
  | first :: 0 :: rest => (.units false, first :: 0 :: rest)
  | octets => (.octets, octets)

/-- The characters of UTF-8, up to the first fault. -/
def utf8Characters (octets : List UInt8) : List Char :=
  match decodeUtf8 octets with
  | .ok text => text.toList
  | .error fault =>
    match decodeUtf8 (octets.take fault.start) with
    | .ok text => text.toList ++ ['\x00']
    | .error _ => ['\x00']

/-- The characters of 16-bit units, up to the first fault; `decoded` holds
those so far, last first. -/
def unitCharacters (bigEndian : Bool) (decoded : List Char) : List UInt8 → List Char
  | [] => decoded.reverse
  | [_] => ('\x00' :: decoded).reverse
  | a :: b :: rest =>
    let join (x y : UInt8) : Nat :=
      if bigEndian then x.toNat * 256 + y.toNat else y.toNat * 256 + x.toNat
    let unit := join a b
    if unit < 0xD800 ∨ 0xE000 ≤ unit then
      unitCharacters bigEndian (Char.ofNat unit :: decoded) rest
    else if 0xDC00 ≤ unit then ('\x00' :: decoded).reverse
    else
      match rest with
      | c :: d :: rest =>
        let second := join c d
        if 0xDC00 ≤ second ∧ second < 0xE000 then
          let code := 0x10000 + (unit - 0xD800) * 1024 + (second - 0xDC00)
          unitCharacters bigEndian (Char.ofNat code :: decoded) rest
        else ('\x00' :: decoded).reverse
      | _ => ('\x00' :: decoded).reverse

/-- The characters of single octets, up to the first that has none. -/
def singleCharacters (highest missing : List Char) : List UInt8 → List Char
  | [] => []
  | octet :: rest =>
    match singleOctetCharacter? highest missing octet with
    | some c => c :: singleCharacters highest missing rest
    | none => ['\x00']

/-- The characters of octets of a width. -/
def Width.characters (width : Width) (octets : List UInt8) : List Char :=
  match width with
  | .octets => utf8Characters octets
  | .units bigEndian => unitCharacters bigEndian [] octets

/-- The number of octets of each of the first characters. -/
def Width.size : Width → Nat
  | .octets => 1
  | .units _ => 2

/-! ## The declaration -/

/-- Whether a value in the declaration may hold a character. -/
def isDeclarationCharacter (c : Char) : Bool :=
  c.isAlphanum || c == '.' || c == '-' || c == '_'

/-- Reads an assignment of the declaration with the white space in front of
it: a name and a value in quotes. At the end there is none. -/
def takeAssignment? (text : List Char) : Option (Option (List Char × List Char) × List Char) :=
  let start := text.dropWhile isSpace
  if start.isEmpty then some (none, [])
  else if start.length = text.length then none
  else
    let name := start.takeWhile fun c => !(c == '=' || isSpace c)
    match (start.drop name.length).dropWhile isSpace with
    | '=' :: rest =>
      match rest.dropWhile isSpace with
      | quote :: rest =>
        let value := rest.takeWhile isDeclarationCharacter
        match rest.drop value.length with
        | c :: rest =>
          if (quote = '"' || quote = '\'') && c = quote && !name.isEmpty then
            some (some (name, value), rest)
          else none
        | [] => none
      | [] => none
    | _ => none

/-- What a document says of itself. -/
structure Declaration where
  /-- The name of its character set. -/
  charset : Option (List Char)
  /-- Whether it needs no declarations outside of it. -/
  standsAlone : Bool
  deriving DecidableEq, Repr

/-- Reads the last assignment, which says whether the document stands alone. -/
def readStandalone? (charset : Option (List Char)) (name value rest : List Char) :
    Option Declaration :=
  if name != "standalone".toList || !(rest.all isSpace) then none
  else if value == "yes".toList then some ⟨charset, true⟩
  else if value == "no".toList then some ⟨charset, false⟩
  else none

/-- Reads the assignments of the declaration: a version, then a character set
and whether the document stands alone, both of which may be missing. -/
def readDeclarationText? (text : List Char) : Option Declaration := do
  let (version?, rest) ← takeAssignment? text
  let (versionName, _) ← version?
  if versionName != "version".toList then none
  match ← takeAssignment? rest with
  | (none, _) => some ⟨none, false⟩
  | (some (name, value), rest) =>
    if name == "encoding".toList then
      if !((value.head?.map Char.isAlpha).getD false) then none
      match ← takeAssignment? rest with
      | (none, _) => some ⟨some value, false⟩
      | (some (name, setting), rest) => readStandalone? (some value) name setting rest
    else
      readStandalone? none name value rest

/-- The text of the declaration at the start of a document, and the number of
characters it takes up with its signs. -/
def takeDeclaration? : List Char → Option (List Char × Nat)
  | '<' :: '?' :: 'x' :: 'm' :: 'l' :: c :: rest =>
    if isSpace c || c = '?' then some (upToEnd [] (c :: rest)) else none
  | _ => none
where
  /-- The characters up to the closing signs; `body` holds those so far. -/
  upToEnd (body : List Char) : List Char → List Char × Nat
    | '?' :: '>' :: _ => (body.reverse, body.length + 7)
    | c :: rest => upToEnd (c :: body) rest
    | [] => (['<'], 0)

/-- The characters behind the declaration, in the character set it names. -/
def namedCharacters (width : Width) (name : List Char) (octets : List UInt8) :
    Except Fault (List Char) :=
  let plain := String.ofList (name.map Char.toUpper)
  let inWidth (expected : Width) (characters : List UInt8 → List Char) :=
    if width = expected then .ok (characters octets) else .error Fault.malformed
  if plain == "UTF-8" then inWidth .octets utf8Characters
  else if plain == "US-ASCII" then inWidth .octets (singleCharacters [] [])
  else if plain == "ISO-8859-1" then
    inWidth .octets fun octets => octets.map fun octet => Char.ofNat octet.toNat
  else if plain == "UTF-16" then
    match width with
    | .units bigEndian => .ok (unitCharacters bigEndian [] octets)
    | .octets => .error .malformed
  else if plain == "UTF-16BE" then inWidth (.units true) (unitCharacters true [])
  else if plain == "UTF-16LE" then inWidth (.units false) (unitCharacters false [])
  else
    match Charset.named name with
    | .singleOctets highest missing => .ok (singleCharacters highest missing octets)
    | .severalOctets => .error .severalOctets
    | .foreign => .error .malformed
    | .unreadable lowerHalf => .error (.unreadableCharset lowerHalf)
    | .unknown => .error .unknownCharset

/-- A document as characters, behind its declaration. -/
structure Source where
  /-- Whether it needs no declarations outside of it. -/
  standsAlone : Bool
  /-- The characters behind the declaration. -/
  text : List Char

/-- The characters of a document. -/
def Source.ofOctets (octets : List UInt8) : Except Fault Source :=
  let (width, octets) := detectWidth octets
  let text := width.characters octets
  match takeDeclaration? text with
  | none => .ok ⟨false, text⟩
  | some (body, length) =>
    match readDeclarationText? body with
    | none => .error .malformed
    | some ⟨none, standsAlone⟩ => .ok ⟨standsAlone, text.drop length⟩
    | some ⟨some name, standsAlone⟩ =>
      (namedCharacters width name (octets.drop (length * width.size))).map fun text =>
        ⟨standsAlone, text⟩

end PatchCoverage.Xml
