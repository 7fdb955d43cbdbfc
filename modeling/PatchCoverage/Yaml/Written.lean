import PatchCoverage.Yaml.Tag
import PatchCoverage.Yaml.Tokenization

namespace PatchCoverage.Yaml

/-!
# The nodes of a document as they are written

A node is a text, a list or a mapping, with a tag.  Lists and mappings are
numbered, so that each can be told from others that look the same.  A node may
have a name, and an alias mentions the node of a name, also within that very
node.

The functions that read nodes follow the grammar of tokens.  They take tokens
from a state that also knows the handles of tags and the names given so far.
-/

/-- A node as it is written. -/
inductive WrittenNode where
  /-- A text. -/
  | scalar (tag : Tag) (text : String)
  /-- A list with its number. -/
  | sequence (number : Nat) (tag : Tag) (items : List WrittenNode)
  /-- Keys with values, and the number of them all. -/
  | mapping (number : Nat) (tag : Tag) (entries : List (WrittenNode × WrittenNode))
  /-- A node with its name. -/
  | anchored (name : String) (node : WrittenNode)
  /-- The node of a name. -/
  | mention (name : String)

/-- The state of reading nodes. -/
structure Composition where
  /-- The tokens to come. -/
  tokens : List Token
  /-- What is wrong behind the last token. -/
  fault : Fault
  /-- Handles with the beginnings of tags they stand for. -/
  handles : List (String × String)
  /-- The names given so far. -/
  names : List String
  /-- The number of the next list or mapping. -/
  count : Nat

/-- A step of reading nodes. -/
abbrev Compose := StateT Composition (Except Fault)

namespace Compose

/-- Refuses a document that breaks the grammar. -/
def refuse {α : Type} : Compose α :=
  throw .malformed

/-- The next token. -/
def peek : Compose Token := do
  match (← get).tokens with
  | [] => throw (← get).fault
  | token :: _ => pure token

/-- Passes the next token. -/
def skip : Compose Unit :=
  modify fun state => { state with tokens := state.tokens.tail }

/-- Passes the next token if it is the given one. -/
def accept (token : Token) : Compose Bool := do
  if (← peek) = token then
    skip
    pure true
  else
    pure false

/-- Passes the next token, which has to be the given one. -/
def expect (token : Token) : Compose Unit := do
  if !(← accept token) then refuse

/-- The node that stands where none is written. -/
def emptyNode : WrittenNode :=
  .scalar .null ""

/-- What stands in front of a node. -/
structure Properties where
  /-- The name of the node. -/
  anchor : Option String
  /-- The complete tag of the node; a lone mark asks for a plain reading. -/
  tag : Option String

/-- The kind of a list or mapping. -/
def Properties.kind (properties : Properties) (default : Tag) : Tag :=
  match properties.tag with
  | some tag => if tag == "!" then default else .ofText tag
  | none => default

/-- The kind of a text. -/
def Properties.scalarKind (properties : Properties) (text : String) (plain : Bool) : Tag :=
  match properties.tag with
  | some tag => if tag == "!" then .ofPlain text else .ofText tag
  | none => if plain then .ofPlain text else .string

/-- Completes a tag. -/
def resolveTag (handle : Option String) (suffix : String) : Compose String := do
  match handle with
  | none => pure suffix
  | some handle =>
    match (← get).handles.lookup handle with
    | some beginning => pure (beginning ++ suffix)
    | none => refuse

/-- Reads an anchor and a tag in either order. -/
def readProperties : Compose Properties := do
  match ← peek with
  | .anchor name =>
    skip
    match ← peek with
    | .tag handle suffix =>
      skip
      pure ⟨some name, some (← resolveTag handle suffix)⟩
    | _ => pure ⟨some name, none⟩
  | .tag handle suffix =>
    skip
    match ← peek with
    | .anchor name =>
      skip
      pure ⟨some name, some (← resolveTag handle suffix)⟩
    | _ => pure ⟨none, some (← resolveTag handle suffix)⟩
  | _ => pure ⟨none, none⟩

/-- Gives a name; a name is given once. -/
def announce (properties : Properties) : Compose Unit := do
  match properties.anchor with
  | none => pure ()
  | some name =>
    if (← get).names.contains name then refuse
    modify fun state => { state with names := name :: state.names }

/-- A number that no other list or mapping has. -/
def nextNumber : Compose Nat :=
  modifyGet fun state => (state.count, { state with count := state.count + 1 })

/-- A node with the name it was given. -/
def Properties.attach (properties : Properties) (node : WrittenNode) : WrittenNode :=
  match properties.anchor with
  | none => node
  | some name => .anchored name node

/-- The list of items under the given properties. -/
def listOf (properties : Properties) (items : List WrittenNode) : Compose WrittenNode := do
  pure (properties.attach (.sequence (← nextNumber) (properties.kind .sequence) items))

/-- The mapping of entries under the given properties. -/
def mappingOf (properties : Properties) (entries : List (WrittenNode × WrittenNode)) :
    Compose WrittenNode := do
  pure (properties.attach (.mapping (← nextNumber) (properties.kind .mapping) entries))

/-- The alias of a name, which has to be given before. -/
def aliased (name : String) : Compose WrittenNode := do
  if (← get).names.contains name then pure (.mention name) else refuse

/-- Whether the next token is one of the given ones. -/
def nextIsOneOf (tokens : List Token) : Compose Bool := do
  pure (tokens.contains (← peek))

mutual

/-- Reads a node. Block collections are read where `block` allows them, and a
list without indentation of its own where `indentless` does. -/
def readNode (block indentless : Bool) : Nat → Compose WrittenNode
  | 0 => refuse
  | fuel + 1 => do
    match ← peek with
    | .alias name =>
      skip
      aliased name
    | _ =>
      let properties ← readProperties
      let next ← peek
      if indentless && next = .blockEntry then
        announce properties
        let items ← readIndentless [] fuel
        listOf properties items
      else
        match next with
        | .scalar text plain =>
          skip
          announce properties
          pure (properties.attach (.scalar (properties.scalarKind text plain) text))
        | .flowSequenceStart =>
          skip
          announce properties
          let items ← readFlowItems [] fuel
          listOf properties items
        | .flowMappingStart =>
          skip
          announce properties
          let entries ← readFlowEntries [] fuel
          mappingOf properties entries
        | .blockSequenceStart =>
          if !block then refuse
          skip
          announce properties
          let items ← readBlockItems [] fuel
          listOf properties items
        | .blockMappingStart =>
          if !block then refuse
          skip
          announce properties
          let entries ← readBlockEntries [] fuel
          mappingOf properties entries
        | _ =>
          if properties.anchor.isNone && properties.tag.isNone then refuse
          announce properties
          pure (properties.attach (.scalar (properties.scalarKind "" true) ""))

/-- Reads a node, or the empty one where one of the given tokens follows. -/
def readNodeUnless (stops : List Token) (block indentless : Bool) : Nat → Compose WrittenNode
  | 0 => refuse
  | fuel + 1 => do
    if ← nextIsOneOf stops then pure emptyNode else readNode block indentless fuel

/-- Reads the items of a list that is indented; `items` holds those so far,
last first. -/
def readBlockItems (items : List WrittenNode) : Nat → Compose (List WrittenNode)
  | 0 => refuse
  | fuel + 1 => do
    if ← accept .blockEntry then
      let item ← readNodeUnless [.blockEntry, .blockEnd] true false fuel
      readBlockItems (item :: items) fuel
    else
      expect .blockEnd
      pure items.reverse

/-- Reads the items of a list that is as far in as the mapping around it. -/
def readIndentless (items : List WrittenNode) : Nat → Compose (List WrittenNode)
  | 0 => refuse
  | fuel + 1 => do
    if ← accept .blockEntry then
      let item ← readNodeUnless [.blockEntry, .key, .value, .blockEnd] true false fuel
      readIndentless (item :: items) fuel
    else
      pure items.reverse

/-- Reads the entries of a mapping that is indented. -/
def readBlockEntries (entries : List (WrittenNode × WrittenNode)) :
    Nat → Compose (List (WrittenNode × WrittenNode))
  | 0 => refuse
  | fuel + 1 => do
    let stops := [Token.key, .value, .blockEnd]
    if ← accept .key then
      let key ← readNodeUnless stops true true fuel
      let value ←
        if ← accept .value then readNodeUnless stops true true fuel else pure emptyNode
      readBlockEntries ((key, value) :: entries) fuel
    else
      expect .blockEnd
      pure entries.reverse

/-- Reads the items between brackets. -/
def readFlowItems (items : List WrittenNode) : Nat → Compose (List WrittenNode)
  | 0 => refuse
  | fuel + 1 => do
    if ← accept .flowSequenceEnd then
      pure items.reverse
    else
      if !items.isEmpty then expect .flowEntry
      if ← accept .key then
        let key ← readNodeUnless [.value, .flowEntry, .flowSequenceEnd] false false fuel
        let value ←
          if ← accept .value then
            readNodeUnless [.flowEntry, .flowSequenceEnd] false false fuel
          else pure emptyNode
        let item ← mappingOf ⟨none, none⟩ [(key, value)]
        readFlowItems (item :: items) fuel
      else if ← accept .flowSequenceEnd then
        pure items.reverse
      else
        let item ← readNode false false fuel
        readFlowItems (item :: items) fuel

/-- Reads the entries between braces. -/
def readFlowEntries (entries : List (WrittenNode × WrittenNode)) :
    Nat → Compose (List (WrittenNode × WrittenNode))
  | 0 => refuse
  | fuel + 1 => do
    if ← accept .flowMappingEnd then
      pure entries.reverse
    else
      if !entries.isEmpty then expect .flowEntry
      if ← accept .key then
        let key ← readNodeUnless [.value, .flowEntry, .flowMappingEnd] false false fuel
        let value ←
          if ← accept .value then
            readNodeUnless [.flowEntry, .flowMappingEnd] false false fuel
          else pure emptyNode
        readFlowEntries ((key, value) :: entries) fuel
      else if ← accept .flowMappingEnd then
        pure entries.reverse
      else
        let key ← readNode false false fuel
        readFlowEntries ((key, emptyNode) :: entries) fuel

end

/-! ## Documents -/

/-- What directives have said: whether the version was named, and handles. -/
structure Directives where
  /-- Whether the version was named. -/
  versioned : Bool
  /-- Handles with the beginnings of tags they stand for. -/
  handles : List (String × String)

/-- Reads directives, none of which may be repeated. -/
def readDirectives (directives : Directives) : Nat → Compose Directives
  | 0 => pure directives
  | fuel + 1 => do
    match ← peek with
    | .versionDirective major =>
      if directives.versioned || major != 1 then refuse
      skip
      readDirectives { directives with versioned := true } fuel
    | .tagDirective handle beginning =>
      if (directives.handles.lookup handle).isSome then refuse
      skip
      readDirectives { directives with handles := (handle, beginning) :: directives.handles } fuel
    | .otherDirective =>
      skip
      readDirectives directives fuel
    | _ => pure directives

/-- Passes marks of a document's end. -/
def skipDocumentEnds : Nat → Compose Unit
  | 0 => pure ()
  | fuel + 1 => do
    if ← accept .documentEnd then skipDocumentEnds fuel

/-- The handles that need no directive. -/
def standardHandles : List (String × String) :=
  [("!", "!"), ("!!", coreTagBeginning)]

/-- Uses the given handles besides the standard ones. -/
def useHandles (handles : List (String × String)) : Compose Unit :=
  modify fun state => { state with handles := handles ++ standardHandles }

/-- Reads the start of a document with its directives. -/
def readExplicitStart (size : Nat) : Compose Unit := do
  let directives ← readDirectives ⟨false, []⟩ size
  expect .documentStart
  useHandles directives.handles

/-- Whether the next token begins a document or its directives. -/
def atExplicitStart : Compose Bool := do
  match ← peek with
  | .versionDirective _ | .tagDirective .. | .otherDirective | .documentStart => pure true
  | _ => pure false

/-- Reads the only document of a text; an empty text has none. -/
def readDocument (size : Nat) : Compose (Option WrittenNode) := do
  let explicit ← atExplicitStart
  if !explicit && (← nextIsOneOf [.streamEnd]) then
    pure none
  else
    if !explicit then
      useHandles []
    else
      readExplicitStart size
    let node ←
      if explicit && ((← atExplicitStart) || (← nextIsOneOf [.documentEnd, .streamEnd])) then
        pure emptyNode
      else
        readNode true false size
    skipDocumentEnds size
    if ← nextIsOneOf [.streamEnd] then
      pure (some node)
    else
      -- A further document, or what is none: both are refused, but what is
      -- wrong with its directives is found first.
      readExplicitStart size
      refuse

end Compose

/-- The outermost node of the only document of a text, if there is a document. -/
def WrittenNode.ofText? (text : List Char) : Except Fault (Option WrittenNode) := do
  let (tokens, fault?) := tokenize text
  let state : Composition := ⟨tokens, fault?.getD .malformed, [], [], 0⟩
  let (node?, _) ← (Compose.readDocument (4 * tokens.length + 16)).run state
  pure node?

end PatchCoverage.Yaml
