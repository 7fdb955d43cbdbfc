import PatchCoverage.Text.Lines
import PatchCoverage.Xml.Reference

namespace PatchCoverage.Xml

/-!
# Document type declarations

A document may begin with declarations of its own.  What they say of attributes
counts: defaults, and which values have their spaces collapsed.  All other
declarations are only read for their form, but for those of entities: the
first one ends the reading of the document.

A reference to a parameter entity cannot be followed.  After one, unless the
document stands alone, further declarations are read without being obeyed.
-/

/-- What was declared of an attribute. -/
structure AttributeRule where
  /-- The name of the attribute. -/
  name : List Char
  /-- Whether its values are taken as they are written. -/
  isPlain : Bool
  /-- The value where none is written. -/
  default : Option (List Char)

/-- What a document's declarations have said. -/
structure Doctype where
  /-- The name of an element with a rule for one of its attributes, in order. -/
  rules : List (List Char × AttributeRule)
  /-- Whether declarations outside of the document may exist. -/
  hasOutside : Bool
  /-- Whether the document says that it needs no others. -/
  standsAlone : Bool
  /-- Whether declarations are still obeyed. -/
  obeyed : Bool

namespace Doctype

/-- What holds before any declaration. -/
def initial (standsAlone : Bool) : Doctype :=
  ⟨[], false, standsAlone, true⟩

/-- Whether undeclared entities may be left out of attribute values. -/
def policy (doctype : Doctype) : EntityPolicy :=
  ⟨doctype.hasOutside && !doctype.standsAlone⟩

/-- The rules for the attributes of an element. -/
def rulesFor (doctype : Doctype) (element : List Char) : List AttributeRule :=
  (doctype.rules.filter fun (name, _) => name == element).map (·.2)

end Doctype

/-! ## Parts of a declaration -/

/-- A part of a declaration. -/
inductive Part where
  /-- A name of one part. -/
  | name (text : List Char)
  /-- A name of two parts. -/
  | qualifiedName (text : List Char)
  /-- Name characters that make up no name. -/
  | nameToken
  /-- A name behind a number sign. -/
  | keyword (text : List Char)
  /-- A text in quotes. -/
  | literal (text : List Char)
  /-- A name followed by a sign that says how often. -/
  | repeatedName
  /-- A closing parenthesis, and the sign behind it. -/
  | closing (repetition : Option Char)
  /-- Any other sign. -/
  | sign (c : Char)
  deriving DecidableEq, Repr

/-- What may stand right behind a name. -/
def endsName : List Char → Bool
  | [] => true
  | c :: _ => isSpace c || ">),|[%".toList.contains c

/-- Reads a text in quotes after its opening quote. -/
def takeLiteral? (quote : Char) (text : List Char) : Option (List Char × List Char) :=
  let body := text.takeWhile (· != quote)
  match text.drop body.length with
  | [] => none
  | _ :: rest =>
    let ends := match rest with | [] => true | c :: _ => isSpace c || ">%[".toList.contains c
    if body.all isXmlCharacter && ends then some (body, rest) else none

/-- Reads a run of name characters; a second colon, or one without a name
behind it, makes it no name. -/
def takeNamePart? (text : List Char) : Option (Part × List Char) :=
  let isToken (c : Char) : Bool := isNameCharacter c || c == ':'
  let body := text.takeWhile isToken
  let rest := text.drop body.length
  let part :=
    match takeName? body with
    | none => Part.nameToken
    | some (_, []) => .name body
    | some (_, _ :: behind) =>
      match behind with
      | [] => .nameToken
      | c :: _ =>
        if isNameCharacter c && !behind.contains ':' then .qualifiedName body else .nameToken
  match rest with
  | c :: rest =>
    if c = '+' || c = '*' || c = '?' then
      if part = .nameToken then none else some (.repeatedName, rest)
    else if endsName (c :: rest) then some (part, c :: rest) else none
  | [] => some (part, [])

/-- Reads the next part of a declaration; white space in front of it is
passed over. -/
def takePart? (text : List Char) : Option (Part × List Char) :=
  match skipSpaces text with
  | [] => none
  | c :: rest =>
    if c = '"' || c = '\'' then (takeLiteral? c rest).map fun (body, rest) => (.literal body, rest)
    else if c = '#' then
      match takeName? rest with
      | some (name, behind) =>
        let ends := match behind with
          | [] => true
          | c :: _ => isSpace c || ")>%|".toList.contains c
        if ends then some (.keyword name, behind) else none
      | none => none
    else if c = ')' then
      match rest with
      | [] => some (.closing none, [])
      | d :: behind =>
        if d = '*' || d = '?' || d = '+' then some (.closing (some d), behind)
        else if isSpace d || ">,|)".toList.contains d then some (.closing none, rest)
        else none
    else if "(,|>[".toList.contains c then some (.sign c, rest)
    else if c = '%' then
      match rest with
      | [] => some (.sign '%', [])
      | d :: _ => if isSpace d || d = '%' then some (.sign '%', rest) else none
    else if isNameCharacter c || c = ':' then takeNamePart? (c :: rest)
    else none

/-- Reads the end of a declaration. -/
def takeEnd? (text : List Char) : Option (List Char) :=
  match takePart? text with
  | some (.sign '>', rest) => some rest
  | _ => none

/-- Reads a text in quotes. -/
def takeQuoted? (text : List Char) : Option (List Char × List Char) :=
  match takePart? text with
  | some (.literal body, rest) => some (body, rest)
  | _ => none

/-- Reads a name of one part. -/
def takePlainName? (text : List Char) : Option (List Char × List Char) :=
  match takePart? text with
  | some (.name name, rest) => some (name, rest)
  | _ => none

/-- Reads a name of one or two parts. -/
def takeAnyName? (text : List Char) : Option (List Char × List Char) :=
  match takePart? text with
  | some (.name name, rest) => some (name, rest)
  | some (.qualifiedName name, rest) => some (name, rest)
  | _ => none

/-- Whether a public identifier may hold a character. -/
def isPublicCharacter (c : Char) : Bool :=
  c.isAlphanum || " \r\n-'()+,./:=?;!*#@$_%".toList.contains c

/-- Reads a public identifier, with its white space collapsed. -/
def takePublicId? (text : List Char) : Option (List Char × List Char) :=
  match takeQuoted? text with
  | some (body, rest) =>
    if body.all isPublicCharacter then
      some (collapseSpaces (body.map fun c => if isSpace c then ' ' else c), rest)
    else none
  | none => none

/-- Identifiers of something outside of the document. -/
structure OutsideId where
  /-- Where it is. -/
  systemId : Option (List Char)
  /-- Its public name. -/
  publicId : Option (List Char)

/-- Reads the identifiers that one of the words `SYSTEM` and `PUBLIC`
announces. -/
def takeOutsideId? (word text : List Char) : Option (OutsideId × List Char) :=
  if word == "SYSTEM".toList then
    (takeQuoted? text).map fun (systemId, rest) => (⟨some systemId, none⟩, rest)
  else if word == "PUBLIC".toList then
    (takePublicId? text).bind fun (publicId, rest) =>
      (takeQuoted? rest).map fun (systemId, rest) => (⟨some systemId, some publicId⟩, rest)
  else none

/-! ## Elements and notations -/

/-- Reads a model of the contents of an element, inside `groups.length`
parentheses; each has the sign that joins its items, once one was seen.
`afterItem` tells whether an item was just read. -/
def skipModel? (groups : List (Option Char)) (afterItem : Bool) (text : List Char) :
    Nat → Option (List Char)
  | 0 => none
  | fuel + 1 =>
    match takePart? text with
    | none => none
    | some (part, rest) =>
      if afterItem then
        match groups, part with
        | _ :: [], .closing _ => takeEnd? rest
        | _ :: outer, .closing _ => skipModel? outer true rest fuel
        | joint :: outer, .sign c =>
          if (c = ',' || c = '|') && (joint.isNone || joint = some c) then
            skipModel? (some c :: outer) false rest fuel
          else none
        | _, _ => none
      else
        match part with
        | .sign '(' => skipModel? (none :: groups) false rest fuel
        | .name _ | .qualifiedName _ | .repeatedName => skipModel? groups true rest fuel
        | _ => none

/-- Reads a model that mixes text with elements, after its keyword. -/
def skipMixed? (hasItems : Bool) (text : List Char) : Nat → Option (List Char)
  | 0 => none
  | fuel + 1 =>
    match takePart? text with
    | some (.closing none, rest) => if hasItems then none else takeEnd? rest
    | some (.closing (some '*'), rest) => takeEnd? rest
    | some (.sign '|', rest) => (takeAnyName? rest).bind fun (_, rest) => skipMixed? true rest fuel
    | _ => none

/-- Reads the declaration of an element after its first word. -/
def skipElementDeclaration? (text : List Char) : Option (List Char) := do
  let (_, rest) ← takeAnyName? text
  match takePart? rest with
  | some (.name word, rest) =>
    if word == "EMPTY".toList || word == "ANY".toList then takeEnd? rest else none
  | some (.sign '(', rest) =>
    match takePart? rest with
    | some (.keyword word, rest) =>
      if word == "PCDATA".toList then skipMixed? false rest (rest.length + 1) else none
    | _ => skipModel? [none] false rest (rest.length + 1)
  | _ => none

/-- Reads the declaration of a notation after its first word. -/
def skipNotationDeclaration? (text : List Char) : Option (List Char) := do
  let (_, rest) ← takePlainName? text
  let (word, rest) ← takePlainName? rest
  if word == "SYSTEM".toList then
    let (_, rest) ← takeQuoted? rest
    takeEnd? rest
  else if word == "PUBLIC".toList then
    let (_, rest) ← takePublicId? rest
    match takePart? rest with
    | some (.literal _, rest) => takeEnd? rest
    | some (.sign '>', rest) => some rest
    | _ => none
  else none

/-! ## Attributes -/

/-- Types of attributes that are single words. -/
def attributeTypes : List String :=
  ["CDATA", "ID", "IDREF", "IDREFS", "ENTITY", "ENTITIES", "NMTOKEN", "NMTOKENS"]

/-- Reads the choices of an attribute after the opening parenthesis. -/
def skipChoices? (plainNames : Bool) (text : List Char) : Nat → Option (List Char)
  | 0 => none
  | fuel + 1 =>
    match takePart? text with
    | none => none
    | some (part, rest) =>
      let isChoice : Bool :=
        match part with
        | .name _ => true
        | .qualifiedName _ | .nameToken => !plainNames
        | _ => false
      if !isChoice then none
      else
        match takePart? rest with
        | some (.closing none, rest) => some rest
        | some (.sign '|', rest) => skipChoices? plainNames rest fuel
        | _ => none

/-- Reads the type of an attribute: whether its values are taken as they are,
and what follows. -/
def takeAttributeType? (text : List Char) : Option (Bool × Bool × List Char) :=
  match takePart? text with
  | some (.name word, rest) =>
    if attributeTypes.contains (String.ofList word) then
      some (word == "CDATA".toList, word == "ID".toList, rest)
    else if word == "NOTATION".toList then
      match takePart? rest with
      | some (.sign '(', rest) =>
        (skipChoices? true rest (rest.length + 1)).map fun rest => (false, false, rest)
      | _ => none
    else none
  | some (.sign '(', rest) =>
    (skipChoices? false rest (rest.length + 1)).map fun rest => (false, false, rest)
  | _ => none

/-- Reads the value that an attribute has by default. -/
def takeDefault? (policy : EntityPolicy) (isPlain : Bool) (text : List Char) :
    Option (List Char × List Char) := do
  let (body, rest) ← takeQuoted? text
  let (value, _) ← readAttributeText policy none [] body (body.length + 1)
  some (if isPlain then value else collapseSpaces value, rest)

/-- Adds a rule. A value by default, or an identifier, does not change what
was said before of the same attribute. -/
def Doctype.addRule (doctype : Doctype) (element : List Char) (rule : AttributeRule)
    (isId : Bool) : Doctype :=
  let known := (doctype.rulesFor element).any fun other => other.name == rule.name
  if !doctype.obeyed || ((rule.default.isSome || isId) && known) then doctype
  else { doctype with rules := doctype.rules ++ [(element, rule)] }

/-- Reads the attributes of a declaration after the name of the element. -/
def readAttributeRules? (doctype : Doctype) (element : List Char) (text : List Char) :
    Nat → Option (Doctype × List Char)
  | 0 => none
  | fuel + 1 =>
    match takePart? text with
    | some (.sign '>', rest) => some (doctype, rest)
    | some (.name name, rest) | some (.qualifiedName name, rest) =>
      match takeAttributeType? rest with
      | none => none
      | some (isPlain, isId, rest) =>
        let add (default : Option (List Char)) (rest : List Char) :=
          readAttributeRules? (doctype.addRule element ⟨name, isPlain, default⟩ isId) element rest
            fuel
        let addDefault (rest : List Char) :=
          if doctype.obeyed then
            match takeDefault? doctype.policy isPlain rest with
            | some (value, rest) => add (some value) rest
            | none => none
          else
            match takeQuoted? rest with
            | some (_, rest) => add none rest
            | none => none
        match takePart? rest with
        | some (.keyword word, after) =>
          if word == "IMPLIED".toList || word == "REQUIRED".toList then add none after
          else if word == "FIXED".toList then addDefault after
          else none
        | some (.literal _, _) => addDefault rest
        | _ => none
    | _ => none

/-! ## Entities -/

/-- Whether the text of an entity is well-formed: references to characters
exist, references to entities have the form of one, and no parameter entity is
used. -/
def isEntityText (text : List Char) : Nat → Bool
  | 0 => text.isEmpty
  | fuel + 1 =>
    match text with
    | [] => true
    | '%' :: _ => false
    | '&' :: rest =>
      match takeReference? rest with
      | some (_, rest) => isEntityText rest fuel
      | none => false
    | _ :: rest => isEntityText rest fuel

/-- The refusal of an entity. -/
def refusal (name : List Char) (id : OutsideId) : Fault :=
  .entityDeclared (String.ofList name) (id.systemId.map String.ofList)
    (id.publicId.map String.ofList)

/-- Reads the declaration of an entity after its first word. A declaration
that is obeyed ends the reading, whatever the text of the entity is. -/
def readEntityDeclaration (doctype : Doctype) (text : List Char) : Except Fault (List Char) := do
  let (isParameter, afterSign) :=
    match takePart? text with
    | some (.sign '%', rest) => (true, rest)
    | _ => (false, text)
  let some (name, rest) := takePlainName? afterSign | throw .malformed
  let standard := (standardEntities.lookup (String.ofList name)).isSome
  let refused := doctype.obeyed && (isParameter || !standard)
  match takePart? rest with
  | some (.literal body, rest) =>
    if refused then throw (refusal name ⟨none, none⟩)
    if doctype.obeyed && !isEntityText body body.length then throw .malformed
    let some rest := takeEnd? rest | throw .malformed
    pure rest
  | some (.name word, rest) =>
    let some (id, rest) := takeOutsideId? word rest | throw .malformed
    match takePart? rest with
    | some (.sign '>', rest) =>
      if refused then throw (refusal name id)
      pure rest
    | some (.name word, rest) =>
      if isParameter || word != "NDATA".toList then throw .malformed
      let some (_, rest) := takePlainName? rest | throw .malformed
      if refused then throw (refusal name id)
      let some rest := takeEnd? rest | throw .malformed
      pure rest
    | _ => throw .malformed
  | _ => throw .malformed

/-! ## The declaration as a whole -/

/-- The word of a declaration behind its opening signs, and what follows. -/
def takeWord? (text : List Char) : Option (String × List Char) :=
  let word := text.takeWhile Char.isAlpha
  match text.drop word.length with
  | c :: rest =>
    let ends :=
      isSpace c || (c == '%' &&
        match rest with | d :: _ => !(isSpace d || d == '%') | [] => false)
    if ends && !word.isEmpty then some (String.ofList word, c :: rest) else none
  | [] => none

/-- Refuses what cannot be read. -/
def orMalformed {α : Type} : Option α → Except Fault α
  | some result => .ok result
  | none => .error .malformed

/-- Reads one declaration after its opening signs. -/
def readDeclaration (doctype : Doctype) (text : List Char) :
    Except Fault (Doctype × List Char) := do
  let (word, rest) ← orMalformed (takeWord? text)
  if word == "ENTITY" then
    let rest ← readEntityDeclaration doctype rest
    pure (doctype, rest)
  else if word == "ATTLIST" then
    let (element, rest) ← orMalformed (takeAnyName? rest)
    orMalformed (readAttributeRules? doctype element rest (rest.length + 1))
  else if word == "ELEMENT" then
    let rest ← orMalformed (skipElementDeclaration? rest)
    pure (doctype, rest)
  else if word == "NOTATION" then
    let rest ← orMalformed (skipNotationDeclaration? rest)
    pure (doctype, rest)
  else
    throw .malformed

/-- Reads declarations up to and including the closing bracket. -/
def readDeclarations (doctype : Doctype) (text : List Char) :
    Nat → Except Fault (Doctype × List Char)
  | 0 => .error .malformed
  | fuel + 1 =>
    match skipSpaces text with
    | ']' :: rest => .ok (doctype, rest)
    | '<' :: '!' :: '-' :: '-' :: rest =>
      match skipComment? rest with
      | some rest => readDeclarations doctype rest fuel
      | none => .error .malformed
    | '<' :: '!' :: rest =>
      match readDeclaration doctype rest with
      | .ok (doctype, rest) => readDeclarations doctype rest fuel
      | .error fault => .error fault
    | '<' :: '?' :: rest =>
      match skipInstruction? rest with
      | some rest => readDeclarations doctype rest fuel
      | none => .error .malformed
    | '%' :: rest =>
      match takeName? rest with
      | some (_, ';' :: rest) =>
        readDeclarations { doctype with hasOutside := true, obeyed := doctype.standsAlone } rest
          fuel
      | _ => .error .malformed
    | _ => .error .malformed

/-- Reads a document type declaration after its first word. -/
def readDoctype (standsAlone : Bool) (text : List Char) : Except Fault (Doctype × List Char) := do
  let doctype := Doctype.initial standsAlone
  let (_, rest) ← orMalformed (takeAnyName? text)
  let (doctype, part, rest) ←
    match takePart? rest with
    | some (.name word, rest) => do
      let (_, rest) ← orMalformed (takeOutsideId? word rest)
      let (part, rest) ← orMalformed (takePart? rest)
      pure ({ doctype with hasOutside := true }, part, rest)
    | some (part, rest) => pure (doctype, part, rest)
    | none => throw .malformed
  match part with
  | .sign '>' => pure (doctype, rest)
  | .sign '[' =>
    let (doctype, rest) ← readDeclarations doctype rest (rest.length + 1)
    let rest ← orMalformed (takeEnd? rest)
    pure (doctype, rest)
  | _ => throw .malformed

end PatchCoverage.Xml
