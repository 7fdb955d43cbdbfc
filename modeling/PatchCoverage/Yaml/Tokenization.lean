import PatchCoverage.Text.Utf8
import PatchCoverage.Yaml.ScalarText
import PatchCoverage.Yaml.Token

namespace PatchCoverage.Yaml

/-!
# From text to tokens

Reading goes on token by token.  Two things make the tokens of a document
depend on more than the characters at hand.

* Indentation: a collection starts where a line is indented further than the
  collection around it, and ends where a line is indented less.
* Keys: that something was a key shows only at the colon behind it.  Until
  then it is remembered as a possible key, and at the colon the key token is
  put in front of it.  A key fits on one line and has at most 1024 characters.
-/

/-- Something that will have been a key if a colon follows. -/
structure PossibleKey where
  /-- The number of tokens in front of it. -/
  tokenNumber : Nat
  /-- Whether its indentation allows nothing but a key. -/
  required : Bool
  /-- Where it starts. -/
  index : Nat
  /-- The line it stands on. -/
  line : Nat
  /-- Its column. -/
  column : Nat

/-- What reading has come to. -/
structure Reading where
  /-- The place in the text. -/
  cursor : Cursor
  /-- The tokens so far. -/
  tokens : Array Token
  /-- The number of open brackets and braces. -/
  flowLevel : Nat
  /-- The indentation of the innermost block collection, if any. -/
  indent : Option Nat
  /-- The indentations of the collections around it, innermost first. -/
  outerIndents : List (Option Nat)
  /-- Whether a key may start here. -/
  keyAllowed : Bool
  /-- The possible keys, by the number of open brackets around them. -/
  possibleKeys : List (Nat × PossibleKey)

namespace Reading

/-- The beginning of a text. -/
def start (text : List Char) : Reading :=
  ⟨.start text, #[], 0, none, [], true, []⟩

/-- Whether brackets or braces are open. -/
def inFlow (reading : Reading) : Bool :=
  0 < reading.flowLevel

/-- The reading with one more token. -/
def push (reading : Reading) (token : Token) : Reading :=
  { reading with tokens := reading.tokens.push token }

/-- The reading at another place. -/
def moveTo (reading : Reading) (cursor : Cursor) : Reading :=
  { reading with cursor := cursor }

/-- Gives up possible keys that can be none any more: those on an earlier line
and those too far back. One that was required is an error. -/
def dropStaleKeys (reading : Reading) : Except Fault Reading :=
  let isStale (key : PossibleKey) : Bool :=
    key.line != reading.cursor.line || 1024 < reading.cursor.index - key.index
  if reading.possibleKeys.any fun (_, key) => isStale key && key.required then
    .error .malformed
  else
    .ok { reading with possibleKeys := reading.possibleKeys.filter fun (_, key) => !isStale key }

/-- Gives up the possible key between the innermost brackets. -/
def dropKey (reading : Reading) : Except Fault Reading :=
  match reading.possibleKeys.lookup reading.flowLevel with
  | none => .ok reading
  | some key =>
    if key.required then .error .malformed
    else
      .ok { reading with
        possibleKeys := reading.possibleKeys.filter fun (level, _) => level != reading.flowLevel }

/-- Remembers that what starts here may be a key. -/
def rememberKey (reading : Reading) : Except Fault Reading :=
  if reading.keyAllowed then do
    let cursor := reading.cursor
    let required := !reading.inFlow && reading.indent == some cursor.column
    let key : PossibleKey :=
      ⟨reading.tokens.size, required, cursor.index, cursor.line, cursor.column⟩
    let reading ← reading.dropKey
    pure { reading with possibleKeys := (reading.flowLevel, key) :: reading.possibleKeys }
  else
    .ok reading

/-- Whether a collection indented by `indent` contains a line at `column`. -/
def isInside (indent : Option Nat) (column : Nat) : Bool :=
  match indent with
  | none => true
  | some indent => indent ≤ column

/-- Ends the innermost block collections as long as `contains` is false of
their indentation. -/
def unwindWhile (inside : Option Nat → Bool) (reading : Reading) : List (Option Nat) → Reading
  | [] => { reading with outerIndents := [] }
  | outer :: rest =>
    if inside reading.indent then { reading with outerIndents := outer :: rest }
    else unwindWhile inside { reading.push .blockEnd with indent := outer } rest

/-- Ends the block collections that a line at `column` is not in. -/
def unwindTo (reading : Reading) (column : Nat) : Reading :=
  if reading.inFlow then reading
  else unwindWhile (isInside · column) reading reading.outerIndents

/-- Ends all block collections. -/
def unwindAll (reading : Reading) : Reading :=
  if reading.inFlow then reading
  else unwindWhile Option.isNone reading reading.outerIndents

/-- Starts a block collection at `column`, if that is further in than the
innermost one; the token goes to place `position`. -/
def indentTo (reading : Reading) (column position : Nat) (token : Token) : Reading :=
  if (match reading.indent with | none => true | some indent => indent < column) then
    { reading with
      indent := some column
      outerIndents := reading.indent :: reading.outerIndents
      tokens := reading.tokens.insertIdxIfInBounds position token }
  else
    reading

/-- Skips blanks, comments and line ends up to the next token. In a block a
new line may start a key. -/
def skipToToken (keyAllowed inFlow : Bool) (cursor : Cursor) : Nat → Bool × Cursor
  | 0 => (keyAllowed, cursor)
  | fuel + 1 =>
    let after := cursor.skipSpaces.skipComment
    if isBreak after.peek then
      skipToToken (keyAllowed || !inFlow) inFlow after.takeBreak.2 fuel
    else
      (keyAllowed, after)

/-! ## Directives, tags and names -/

/-- Reads a whole number of a directive. -/
def scanVersionNumber (cursor : Cursor) : Except Fault (Nat × Cursor) :=
  let (digits, after) := cursor.takeWhile Char.isDigit
  if digits.isEmpty then .error .malformed
  else if digitLimit < digits.length then .error (.tooManyDigits digits.length)
  else .ok (digitsValue digits, after)

/-- A letter, a digit or a sign that a tag may hold. -/
def isTagCharacter (c : Char) : Bool :=
  c.isAlphanum || "-;/?:@&=+$,_.!~*'()[]%".toList.contains c

/-- Reads octets written as a percent sign and two digits each. -/
def scanPercentOctets (octets : List UInt8) (cursor : Cursor) :
    Nat → Except Fault (List UInt8 × Cursor)
  | 0 => .ok (octets, cursor)
  | fuel + 1 =>
    if cursor.peek = '%' then
      let digits := cursor.advance.rest.take 2
      match hexValue? digits with
      | some value =>
        if digits.length = 2 then
          scanPercentOctets (octets ++ [UInt8.ofNat value]) (cursor.advanceBy 3) fuel
        else .error .malformed
      | none => .error .malformed
    else .ok (octets, cursor)

/-- Reads the characters of a tag after `text`. -/
def scanTagTextFrom (text : List Char) (cursor : Cursor) : Nat → Scanned
  | 0 => .ok (text, cursor)
  | fuel + 1 =>
    let (plain, after) := cursor.takeWhile fun c => isTagCharacter c && c != '%'
    if after.peek = '%' then
      match scanPercentOctets [] after after.rest.length with
      | .error fault => .error fault
      | .ok (octets, next) =>
        match decodeUtf8 octets with
        | .error _ => .error .malformed
        | .ok decoded => scanTagTextFrom (text ++ plain ++ decoded.toList) next fuel
    else
      .ok (text ++ plain, after)

/-- Reads the characters of a tag, of which there is at least one. -/
def scanTagText (cursor : Cursor) : Except Fault (String × Cursor) := do
  let (text, after) ← scanTagTextFrom [] cursor (cursor.rest.length + 1)
  if after.index = cursor.index then throw .malformed
  pure (String.ofList text, after)

/-- Reads a handle: an exclamation mark, or a name between two. -/
def scanTagHandle (cursor : Cursor) : Except Fault (String × Cursor) :=
  if cursor.peek ≠ '!' then .error .malformed
  else
    let (name, after) := cursor.advance.takeWhile isNameCharacter
    if cursor.peekAt 1 = ' ' then .ok ("!", cursor.advance)
    else if after.peek = '!' then .ok (String.ofList ('!' :: name ++ ['!']), after.advance)
    else .error .malformed

/-- Reads a directive from its percent sign on. -/
def scanDirective (cursor : Cursor) : Except Fault (Token × Cursor) := do
  let (name, after) := cursor.advance.takeWhile isNameCharacter
  if name.isEmpty || !isSpaceOrEnd after.peek then throw .malformed
  let (token, last) ←
    if name == "YAML".toList then do
      let (major, afterMajor) ← scanVersionNumber after.skipSpaces
      if afterMajor.peek ≠ '.' then throw .malformed
      let (_, afterMinor) ← scanVersionNumber afterMajor.advance
      if !isSpaceOrEnd afterMinor.peek then throw .malformed
      pure (Token.versionDirective major, afterMinor)
    else if name == "TAG".toList then do
      let (handle, afterHandle) ← scanTagHandle after.skipSpaces
      if afterHandle.peek ≠ ' ' then throw .malformed
      let (beginning, afterText) ← scanTagText afterHandle.skipSpaces
      if !isSpaceOrEnd afterText.peek then throw .malformed
      pure (Token.tagDirective handle beginning, afterText)
    else
      pure (Token.otherDirective, after.skipWhile fun c => !isBreakOrEnd c)
  let next ← skipIgnoredLine last
  pure (token, next)

/-- Reads the name behind the sign of an anchor or an alias. -/
def scanName (cursor : Cursor) : Except Fault (String × Cursor) :=
  let (name, after) := cursor.advance.takeWhile isNameCharacter
  if name.isEmpty || !(isGap after.peek || "?:,]\x7d%@\x60".toList.contains after.peek) then
    .error .malformed
  else
    .ok (String.ofList name, after)

/-- Whether a tag that starts at an exclamation mark has a second one. -/
def hasSecondMark (cursor : Cursor) : Bool :=
  (cursor.advance.rest.takeWhile fun c => !isSpaceOrEnd c).contains '!'

/-- Reads a tag from its exclamation mark on. -/
def scanTag (cursor : Cursor) : Except Fault (Token × Cursor) := do
  let next := cursor.peekAt 1
  let (token, after) ←
    if next = '<' then do
      let (suffix, after) ← scanTagText (cursor.advanceBy 2)
      if after.peek ≠ '>' then throw .malformed
      pure (Token.tag none suffix, after.advance)
    else if isGap next then
      pure (Token.tag none "!", cursor.advance)
    else do
      let (handle, afterHandle) ←
        if hasSecondMark cursor then scanTagHandle cursor else pure ("!", cursor.advance)
      let (suffix, after) ← scanTagText afterHandle
      pure (Token.tag (some handle) suffix, after)
  if !isSpaceOrEnd after.peek then throw .malformed
  pure (token, after)

/-! ## One token at a time -/

/-- Ends the text. -/
def endText (reading : Reading) : Except Fault Reading := do
  let reading ← reading.unwindAll.dropKey
  pure { reading.push .streamEnd with keyAllowed := false, possibleKeys := [] }

/-- Reads a mark of a document's start or end. -/
def readDocumentMark (token : Token) (reading : Reading) : Except Fault Reading := do
  let reading ← reading.unwindAll.dropKey
  pure ({ reading with keyAllowed := false }.push token |>.moveTo (reading.cursor.advanceBy 3))

/-- Reads a directive. -/
def readDirective (reading : Reading) : Except Fault Reading := do
  let reading ← reading.unwindAll.dropKey
  let (token, after) ← scanDirective reading.cursor
  pure ({ reading with keyAllowed := false }.push token |>.moveTo after)

/-- Reads an opening bracket or brace. -/
def readOpening (token : Token) (reading : Reading) : Except Fault Reading := do
  let reading ← reading.rememberKey
  pure ({ reading with flowLevel := reading.flowLevel + 1, keyAllowed := true }.push token
    |>.moveTo reading.cursor.advance)

/-- Reads a closing bracket or brace. -/
def readClosing (token : Token) (reading : Reading) : Except Fault Reading := do
  let reading ← reading.dropKey
  pure ({ reading with flowLevel := reading.flowLevel - 1, keyAllowed := false }.push token
    |>.moveTo reading.cursor.advance)

/-- Reads the comma between items. -/
def readFlowEntry (reading : Reading) : Except Fault Reading := do
  let reading ← reading.dropKey
  pure ({ reading with keyAllowed := true }.push .flowEntry |>.moveTo reading.cursor.advance)

/-- Starts a block collection where the next token stands. -/
def openBlock (token : Token) (reading : Reading) : Except Fault Reading :=
  if reading.inFlow then .ok reading
  else if !reading.keyAllowed then .error .malformed
  else .ok (reading.indentTo reading.cursor.column reading.tokens.size token)

/-- Reads the dash of a list item. -/
def readBlockEntry (reading : Reading) : Except Fault Reading := do
  let reading ← reading.openBlock .blockSequenceStart
  let reading ← reading.dropKey
  pure ({ reading with keyAllowed := true }.push .blockEntry |>.moveTo reading.cursor.advance)

/-- Reads the question mark in front of a key. -/
def readKey (reading : Reading) : Except Fault Reading := do
  let reading ← reading.openBlock .blockMappingStart
  let reading ← reading.dropKey
  pure ({ reading with keyAllowed := !reading.inFlow }.push .key |>.moveTo reading.cursor.advance)

/-- Reads the colon in front of a value. What was a possible key becomes one;
without one the key is empty. -/
def readValue (reading : Reading) : Except Fault Reading := do
  let reading ←
    match reading.possibleKeys.lookup reading.flowLevel with
    | some key =>
      let withKey : Reading :=
        { reading with
          possibleKeys := reading.possibleKeys.filter fun (level, _) => level != reading.flowLevel
          tokens := reading.tokens.insertIdxIfInBounds key.tokenNumber .key
          keyAllowed := false }
      pure (if reading.inFlow then withKey
        else withKey.indentTo key.column key.tokenNumber .blockMappingStart)
    | none => do
      let reading ← reading.openBlock .blockMappingStart
      let reading ← { reading with keyAllowed := !reading.inFlow }.dropKey
      pure reading
  pure (reading.push .value |>.moveTo reading.cursor.advance)

/-- Reads an anchor or an alias. -/
def readName (make : String → Token) (reading : Reading) : Except Fault Reading := do
  let reading ← reading.rememberKey
  let (name, after) ← scanName reading.cursor
  pure ({ reading with keyAllowed := false }.push (make name) |>.moveTo after)

/-- Reads a tag. -/
def readTag (reading : Reading) : Except Fault Reading := do
  let reading ← reading.rememberKey
  let (token, after) ← scanTag reading.cursor
  pure ({ reading with keyAllowed := false }.push token |>.moveTo after)

/-- Reads a block of text. -/
def readBlock (reading : Reading) : Except Fault Reading := do
  let reading ← reading.dropKey
  let least := match reading.indent with | none => 0 | some indent => indent + 1
  let (text, after) ← scanBlock least reading.cursor
  pure ({ reading with keyAllowed := true }.push (.scalar (String.ofList text) false)
    |>.moveTo after)

/-- Reads a text in quotes. -/
def readQuoted (reading : Reading) : Except Fault Reading := do
  let reading ← reading.rememberKey
  let (text, after) ← scanQuoted reading.cursor
  pure ({ reading with keyAllowed := false }.push (.scalar (String.ofList text) false)
    |>.moveTo after)

/-- Reads a plain text. -/
def readPlain (reading : Reading) : Except Fault Reading := do
  let reading ← reading.rememberKey
  let least := match reading.indent with | none => 0 | some indent => indent + 1
  let plain := scanPlain reading.inFlow least reading.cursor
  pure ({ reading with keyAllowed := plain.crossedLine }.push
    (.scalar (String.ofList plain.text) true) |>.moveTo plain.after)

/-- Whether a plain text starts with `c`, which `next` follows. -/
def startsPlain (flow : Bool) (c next : Char) : Bool :=
  !(isGap c || "-?:,[]\x7b\x7d#&*!|>'\"%@\x60".toList.contains c) ||
    (!isGap next && (c == '-' || (!flow && (c == '?' || c == ':'))))

/-- Reads the token at this place. -/
def readToken (reading : Reading) : Except Fault Reading :=
  let cursor := reading.cursor
  let c := cursor.peek
  let next := cursor.peekAt 1
  let flow := reading.inFlow
  let lineStart := cursor.column == 0
  if c = '\x00' then reading.endText
  else if c = '%' && lineStart then reading.readDirective
  else if lineStart && cursor.isTripleMark '-' then reading.readDocumentMark .documentStart
  else if lineStart && cursor.isTripleMark '.' then reading.readDocumentMark .documentEnd
  else if c = '[' then reading.readOpening .flowSequenceStart
  else if c = '\x7b' then reading.readOpening .flowMappingStart
  else if c = ']' then reading.readClosing .flowSequenceEnd
  else if c = '\x7d' then reading.readClosing .flowMappingEnd
  else if c = ',' then reading.readFlowEntry
  else if c = '-' && isGap next then reading.readBlockEntry
  else if c = '?' && (flow || isGap next) then reading.readKey
  else if c = ':' && (flow || isGap next) then reading.readValue
  else if c = '*' then reading.readName .alias
  else if c = '&' then reading.readName .anchor
  else if c = '!' then reading.readTag
  else if (c = '|' || c = '>') && !flow then reading.readBlock
  else if c = '\'' || c = '"' then reading.readQuoted
  else if startsPlain flow c next then reading.readPlain
  else .error .malformed

/-- Reads up to and including the next token. -/
def step (reading : Reading) : Except Fault Reading := do
  let size := reading.cursor.rest.length + 1
  let (keyAllowed, cursor) := skipToToken reading.keyAllowed reading.inFlow reading.cursor size
  let reading ← { reading with keyAllowed := keyAllowed, cursor := cursor }.dropStaleKeys
  (reading.unwindTo reading.cursor.column).readToken

/-- The tokens that are certain: those in front of every possible key. -/
def settledTokens (reading : Reading) : List Token :=
  (reading.possibleKeys.foldl (fun least (_, key) => min least key.tokenNumber)
    reading.tokens.size |> reading.tokens.toList.take)

/-- Reads token after token; a fault ends the tokens. -/
def run (reading : Reading) : Nat → List Token × Option Fault
  | 0 => (reading.settledTokens, some .malformed)
  | fuel + 1 =>
    match reading.step with
    | .error fault => (reading.settledTokens, some fault)
    | .ok next =>
      if next.tokens.back? = some .streamEnd then (next.tokens.toList, none) else run next fuel

end Reading

/-- The tokens of a text up to the first fault. A byte order mark in front of
the text is skipped. -/
def tokenize (text : List Char) : List Token × Option Fault :=
  let start := Reading.start text
  let start := if start.cursor.peek = '\uFEFF' then start.moveTo start.cursor.advance else start
  start.run (text.length + 2)

end PatchCoverage.Yaml
