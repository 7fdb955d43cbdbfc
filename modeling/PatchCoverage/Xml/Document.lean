import PatchCoverage.Xml.Namespace
import PatchCoverage.Xml.Octets

namespace PatchCoverage.Xml

/-!
# Reading a document

A document is a prolog, one element and an epilog.  The element is read with a
stack of the elements that are open; each knows the names that are bound
inside it.  Text is checked but not kept.
-/

/-- A start of an element as it is written. -/
structure StartTag where
  /-- The name as it is written. -/
  name : List Char
  /-- The attributes as they are written. -/
  attributes : List WrittenAttribute
  /-- Whether the element ends at once. -/
  isEmpty : Bool

/-- Reads attributes up to the end of a start tag. `spaced` tells whether
white space was passed, without which no attribute may follow. -/
def readStartTag (policy : EntityPolicy) (name : List Char) (spaced : Bool)
    (attributes : List WrittenAttribute) : List Char → Nat → Option (StartTag × List Char)
  | _, 0 => none
  | '>' :: rest, _ => some (⟨name, attributes.reverse, false⟩, rest)
  | '/' :: '>' :: rest, _ => some (⟨name, attributes.reverse, true⟩, rest)
  | c :: rest, fuel + 1 =>
    if isSpace c then readStartTag policy name true attributes rest fuel
    else if !spaced then none
    else
      match takeQualifiedName? (c :: rest) with
      | none => none
      | some (label, rest) =>
        match skipSpaces rest with
        | '=' :: rest =>
          match skipSpaces rest with
          | quote :: rest =>
            if quote = '"' || quote = '\'' then
              match readAttributeText policy (some quote) [] rest (rest.length + 1) with
              | some (value, rest) =>
                readStartTag policy name false ((label, value) :: attributes) rest fuel
              | none => none
            else none
          | [] => none
        | _ => none
  | [], _ => none

/-- An element that is open. -/
structure OpenElement where
  /-- The name as it is written. -/
  written : List Char
  /-- The full name. -/
  name : String
  /-- The attributes. -/
  attributes : List (String × String)
  /-- The elements inside it so far, last first. -/
  children : List Element
  /-- The names bound inside it. -/
  scope : Scope

/-- The element that ends. -/
def OpenElement.close (element : OpenElement) : Element :=
  .node element.name element.attributes element.children.reverse

/-- Reads the end of an element after its opening signs. -/
def takeEndTag? (text : List Char) : Option (List Char × List Char) :=
  let isPart (c : Char) : Bool := isNameCharacter c || c == ':'
  let name := text.takeWhile isPart
  match skipSpaces (text.drop name.length) with
  | '>' :: rest => some (name, rest)
  | _ => none

/-- Reads on inside `element`, which stands inside the elements `outer`, up to
the end of the outermost one. -/
def readContent (doctype : Doctype) (element : OpenElement) (outer : List OpenElement) :
    List Char → Nat → Option (Element × List Char)
  | _, 0 => none
  | '<' :: '!' :: '-' :: '-' :: rest, fuel + 1 =>
    (skipComment? rest).bind fun rest => readContent doctype element outer rest fuel
  | '<' :: '!' :: '[' :: 'C' :: 'D' :: 'A' :: 'T' :: 'A' :: '[' :: rest, fuel + 1 =>
    (skipPlainSection? rest).bind fun rest => readContent doctype element outer rest fuel
  | '<' :: '?' :: rest, fuel + 1 =>
    (skipInstruction? rest).bind fun rest => readContent doctype element outer rest fuel
  | '<' :: '/' :: rest, fuel + 1 =>
    match takeEndTag? rest with
    | none => none
    | some (name, rest) =>
      if name != element.written then none
      else
        match outer with
        | [] => some (element.close, rest)
        | parent :: outer =>
          readContent doctype { parent with children := element.close :: parent.children } outer
            rest fuel
  | '<' :: rest, fuel + 1 => do
    let (name, rest) ← takeQualifiedName? rest
    let (tag, rest) ← readStartTag doctype.policy name false [] rest (rest.length + 1)
    let (scope, fullName, attributes) ←
      resolveStart? doctype element.scope tag.name tag.attributes
    let child : OpenElement := ⟨tag.name, fullName, attributes, [], scope⟩
    if tag.isEmpty then
      readContent doctype { element with children := child.close :: element.children } outer rest
        fuel
    else
      readContent doctype child (element :: outer) rest fuel
  | '&' :: rest, fuel + 1 =>
    match takeReference? rest with
    | some (.character _, rest) => readContent doctype element outer rest fuel
    | _ => none
  | ']' :: ']' :: '>' :: _, _ => none
  | c :: rest, fuel + 1 =>
    if isXmlCharacter c then readContent doctype element outer rest fuel else none
  | [], _ => none

/-- Reads the outermost element after its opening sign. -/
def readRoot? (doctype : Doctype) (text : List Char) : Option (Element × List Char) := do
  let (name, rest) ← takeQualifiedName? text
  let (tag, rest) ← readStartTag doctype.policy name false [] rest (rest.length + 1)
  let (scope, fullName, attributes) ← resolveStart? doctype .initial tag.name tag.attributes
  let root : OpenElement := ⟨tag.name, fullName, attributes, [], scope⟩
  if tag.isEmpty then some (root.close, rest)
  else readContent doctype root [] rest (rest.length + 1)

/-- Whether only white space, comments and instructions follow. -/
def isEpilog : List Char → Nat → Bool
  | [], _ => true
  | _, 0 => false
  | '<' :: '!' :: '-' :: '-' :: rest, fuel + 1 =>
    match skipComment? rest with
    | some rest => isEpilog rest fuel
    | none => false
  | '<' :: '?' :: rest, fuel + 1 =>
    match skipInstruction? rest with
    | some rest => isEpilog rest fuel
    | none => false
  | c :: rest, fuel + 1 => isSpace c && isEpilog rest fuel

/-- Reads the prolog from here on, and the document behind it. At most one
document type declaration may stand there. -/
def readProlog (doctype : Doctype) (declared : Bool) : List Char → Nat → Except Fault Element
  | _, 0 => .error .malformed
  | '<' :: '!' :: '-' :: '-' :: rest, fuel + 1 =>
    match skipComment? rest with
    | some rest => readProlog doctype declared rest fuel
    | none => .error .malformed
  | '<' :: '!' :: rest, fuel + 1 =>
    match takeWord? rest with
    | some (word, rest) =>
      if declared || word != "DOCTYPE" then .error .malformed
      else
        match readDoctype doctype.standsAlone rest with
        | .ok (doctype, rest) => readProlog doctype true rest fuel
        | .error fault => .error fault
    | none => .error .malformed
  | '<' :: '?' :: rest, fuel + 1 =>
    match skipInstruction? rest with
    | some rest => readProlog doctype declared rest fuel
    | none => .error .malformed
  | '<' :: rest, _ =>
    match readRoot? doctype rest with
    | some (root, rest) =>
      if isEpilog rest (rest.length + 1) then .ok root else .error .malformed
    | none => .error .malformed
  | c :: rest, fuel + 1 =>
    if isSpace c then readProlog doctype declared rest fuel else .error .malformed
  | [], _ => .error .malformed

/-- The tree of a document. -/
def Element.ofOctets (octets : List UInt8) : Except Fault Element := do
  let source ← Source.ofOctets octets
  readProlog (.initial source.standsAlone) false source.text (source.text.length + 1)

end PatchCoverage.Xml
