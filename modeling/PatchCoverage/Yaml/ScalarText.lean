import PatchCoverage.Json.Reader
import PatchCoverage.Text.HalfPair
import PatchCoverage.Yaml.Cursor
import PatchCoverage.Yaml.Fault

namespace PatchCoverage.Yaml

/-!
# Texts within a document

A text is written plainly, in quotes, or as an indented block.  In each form a
single line end between two lines reads as a space (in a block only after `>`)
and further ones are kept.

Every function starts at a cursor and returns the text, last piece included,
with the cursor after it.

A character may be escaped by its number.  The numbers of halves of pairs are
numbers of characters too; they read as the characters that stand for halves
(`halfCharacter`).
-/

/-- A text and the place after it. -/
abbrev Scanned := Except Fault (List Char × Cursor)

/-- What a folded line end and the empty lines after it read as. -/
def foldBreak (lineBreak breaks : List Char) : List Char :=
  (if lineBreak != ['\n'] then lineBreak else if breaks.isEmpty then [' '] else []) ++ breaks

/-! ## Plain texts -/

/-- Whether a plain text stops in front of `c`, which `next` follows. -/
def endsPlain (flow : Bool) (c next : Char) : Bool :=
  isGap c ||
    (c == ':' && (isGap next || (flow && ",[]\x7b\x7d".toList.contains next))) ||
    (flow && ",?[]\x7b\x7d".toList.contains c)

/-- The number of characters of a plain text up to a gap. -/
def plainLength (flow : Bool) : List Char → Nat
  | [] => 0
  | c :: rest => if endsPlain flow c (rest.headD '\x00') then 0 else plainLength flow rest + 1

/-- The spaces and line ends between two words of a plain text. -/
structure PlainGap where
  /-- What the gap reads as, if the text may go on. -/
  text : List Char
  /-- Whether a line ended. -/
  crossedLine : Bool
  /-- The place after the gap. -/
  after : Cursor

/-- Skips empty lines and indentation; stops early, with `none`, at the mark
of a document. -/
def plainBreaks (cursor : Cursor) (breaks : List Char) : Nat → Option (List Char) × Cursor
  | 0 => (some breaks, cursor)
  | fuel + 1 =>
    if cursor.peek = ' ' then plainBreaks cursor.advance breaks fuel
    else if isBreak cursor.peek then
      let (lineBreak, after) := cursor.takeBreak
      if after.isDocumentMark then (none, after)
      else plainBreaks after (breaks ++ lineBreak) fuel
    else (some breaks, cursor)

/-- Reads the gap after a word of a plain text. -/
def plainGap (cursor : Cursor) : PlainGap :=
  let (spaces, after) := cursor.takeWhile (· == ' ')
  if isBreak after.peek then
    let (lineBreak, next) := after.takeBreak
    if next.isDocumentMark then ⟨[], true, next⟩
    else
      match plainBreaks next [] next.rest.length with
      | (none, last) => ⟨[], true, last⟩
      | (some breaks, last) => ⟨foldBreak lineBreak breaks, true, last⟩
  else
    ⟨spaces, false, after⟩

/-- A plain text: what it reads as, whether its last gap crossed a line, and
the place after it. -/
structure PlainText where
  /-- What the text reads as. -/
  text : List Char
  /-- Whether the gap behind it crossed a line. -/
  crossedLine : Bool
  /-- The place after it. -/
  after : Cursor

/-- Reads words of a plain text after `text` and the gap `spaces`. -/
def scanPlainFrom (flow : Bool) (indent : Nat) (text spaces : List Char) (crossedLine : Bool)
    (cursor : Cursor) : Nat → PlainText
  | 0 => ⟨text, crossedLine, cursor⟩
  | fuel + 1 =>
    let length := if cursor.peek = '#' then 0 else plainLength flow cursor.rest
    if length = 0 then
      ⟨text, crossedLine, cursor⟩
    else
      let read := text ++ spaces ++ cursor.rest.take length
      let gap := plainGap (cursor.advanceBy length)
      if gap.text.isEmpty || gap.after.peek = '#' || (!flow && gap.after.column < indent) then
        ⟨read, gap.crossedLine, gap.after⟩
      else
        scanPlainFrom flow indent read gap.text gap.crossedLine gap.after fuel

/-- Reads a plain text whose further lines are indented by `indent` at least. -/
def scanPlain (flow : Bool) (indent : Nat) (cursor : Cursor) : PlainText :=
  scanPlainFrom flow indent [] [] false cursor (cursor.rest.length + 1)

/-! ## Texts in quotes -/

/-- The character that a letter stands for after a backslash. -/
def quotedEscape? : Char → Option Char
  | '0' => some '\x00'
  | 'a' => some '\x07'
  | 'b' => some '\x08'
  | 't' | '\t' => some '\t'
  | 'n' => some '\n'
  | 'v' => some '\x0b'
  | 'f' => some '\x0c'
  | 'r' => some '\r'
  | 'e' => some '\x1b'
  | ' ' => some ' '
  | '"' => some '"'
  | '\\' => some '\\'
  | '/' => some '/'
  | 'N' => some '\x85'
  | '_' => some '\xa0'
  | 'L' => some '\u2028'
  | 'P' => some '\u2029'
  | _ => none

/-- The number of hexadecimal digits that a letter announces after a
backslash. -/
def escapeLength? : Char → Option Nat
  | 'x' => some 2
  | 'u' => some 4
  | 'U' => some 8
  | _ => none

/-- The number that hexadecimal digits stand for. -/
def hexValue? (digits : List Char) : Option Nat :=
  digits.foldlM (fun value c => (Json.hexDigit? c).map (value * 16 + ·)) 0

/-- The character with a number, or the one that stands for half of a pair of
16-bit units. -/
def characterOf (code : Nat) : Except Fault Char :=
  if 0x7fffffff < code then .error .overflow
  else if 0x10ffff < code then .error .noSuchCharacter
  else if isHalfCode code then .ok (halfCharacter code)
  else .ok (Char.ofNat code)

/-- Skips indentation and empty lines within quotes. The mark of a document
may not stand there. -/
def quotedBreaks (cursor : Cursor) (breaks : List Char) : Nat → Scanned
  | 0 => .ok (breaks, cursor)
  | fuel + 1 =>
    if cursor.isDocumentMark then .error .malformed
    else
      let after := cursor.skipWhile fun c => c == ' ' || c == '\t'
      if isBreak after.peek then
        let (lineBreak, next) := after.takeBreak
        quotedBreaks next (breaks ++ lineBreak) fuel
      else
        .ok (breaks, after)

/-- Reads the escape after a backslash at this place. -/
def scanEscape (cursor : Cursor) : Scanned :=
  let letter := cursor.advance.peek
  let after := cursor.advance.advance
  match quotedEscape? letter with
  | some c => .ok ([c], after)
  | none =>
    match escapeLength? letter with
    | some length =>
      let digits := after.rest.take length
      match hexValue? digits with
      | some code =>
        if digits.length = length then
          (characterOf code).map fun c => ([c], after.advanceBy length)
        else
          .error .malformed
      | none => .error .malformed
    | none =>
      if isBreak letter then quotedBreaks after [] after.rest.length else .error .malformed

/-- Reads spaces within quotes, with the line ends among them. -/
def scanQuotedGap (cursor : Cursor) : Scanned :=
  let (spaces, after) := cursor.takeWhile fun c => c == ' ' || c == '\t'
  if after.peek = '\x00' then .error .malformed
  else if isBreak after.peek then
    let (lineBreak, next) := after.takeBreak
    (quotedBreaks next [] next.rest.length).map fun (breaks, last) =>
      (foldBreak lineBreak breaks, last)
  else
    .ok (spaces, after)

/-- Whether a character within quotes needs a rule of its own. -/
def isQuotedSpecial (c : Char) : Bool :=
  c == '\'' || c == '"' || c == '\\' || isGap c

/-- Reads a text in quotes after `text`, up to and including the closing
quote. -/
def scanQuotedFrom (double : Bool) (text : List Char) (cursor : Cursor) : Nat → Scanned
  | 0 => .error .malformed
  | fuel + 1 =>
    let (plain, after) := cursor.takeWhile fun c => !isQuotedSpecial c
    let read := text ++ plain
    let c := after.peek
    if !double && c = '\'' && after.peekAt 1 = '\'' then
      scanQuotedFrom double (read ++ ['\'']) (after.advanceBy 2) fuel
    else if (double && c = '\'') || (!double && (c = '"' || c = '\\')) then
      scanQuotedFrom double (read ++ [c]) after.advance fuel
    else if double && c = '\\' then
      match scanEscape after with
      | .error fault => .error fault
      | .ok (escaped, next) => scanQuotedFrom double (read ++ escaped) next fuel
    else if c = '\'' || c = '"' then
      .ok (read, after.advance)
    else
      match scanQuotedGap after with
      | .error fault => .error fault
      | .ok (gap, next) => scanQuotedFrom double (read ++ gap) next fuel

/-- Reads a text in quotes from its opening quote on. -/
def scanQuoted (cursor : Cursor) : Scanned :=
  scanQuotedFrom (cursor.peek == '"') [] cursor.advance (cursor.rest.length + 1)

/-! ## Blocks -/

/-- What becomes of the line ends behind a block. -/
inductive Chomping where
  /-- None is kept. -/
  | strip
  /-- One is kept. -/
  | clip
  /-- All are kept. -/
  | keep
  deriving DecidableEq, Repr

/-- The signs behind the indicator of a block. -/
structure BlockHeader where
  /-- What becomes of the line ends behind the block. -/
  chomping : Chomping
  /-- The indentation, where it is given. -/
  indentation : Option Nat

/-- The chomping that a sign asks for. -/
def chompingOf? : Char → Option Chomping
  | '+' => some .keep
  | '-' => some .strip
  | _ => none

/-- The indentation that a digit asks for; zero is refused. -/
def indentationOf? (c : Char) : Except Fault (Option Nat) :=
  if c = '0' then .error .malformed
  else if c.isDigit then .ok (some (c.toNat - 48))
  else .ok none

/-- Reads the two signs in either order. -/
def scanBlockHeader (cursor : Cursor) : Except Fault (BlockHeader × Cursor) := do
  match chompingOf? cursor.peek with
  | some chomping =>
    let after := cursor.advance
    match ← indentationOf? after.peek with
    | some indentation => pure (⟨chomping, some indentation⟩, after.advance)
    | none => pure (⟨chomping, none⟩, after)
  | none =>
    match ← indentationOf? cursor.peek with
    | none => pure (⟨.clip, none⟩, cursor)
    | some indentation =>
      let after := cursor.advance
      match chompingOf? after.peek with
      | some chomping => pure (⟨chomping, some indentation⟩, after.advance)
      | none => pure (⟨.clip, some indentation⟩, after)

/-- Reads the rest of a line that may hold only a comment, and its end. -/
def skipIgnoredLine (cursor : Cursor) : Except Fault Cursor :=
  let after := cursor.skipSpaces.skipComment
  if isBreakOrEnd after.peek then .ok after.takeBreak.2 else .error .malformed

/-- Skips leading empty lines of a block and finds its indentation: the
longest run of spaces among them. -/
def blockIndentation (cursor : Cursor) (breaks : List Char) (deepest : Nat) :
    Nat → List Char × Nat × Cursor
  | 0 => (breaks, deepest, cursor)
  | fuel + 1 =>
    if cursor.peek = ' ' then
      let after := cursor.advance
      blockIndentation after breaks (max deepest after.column) fuel
    else if isBreak cursor.peek then
      let (lineBreak, after) := cursor.takeBreak
      blockIndentation after (breaks ++ lineBreak) deepest fuel
    else
      (breaks, deepest, cursor)

/-- Skips spaces up to a column. -/
def skipIndentation (indent : Nat) (cursor : Cursor) : Cursor :=
  cursor.advanceBy (min ((cursor.rest.takeWhile (· == ' ')).length) (indent - cursor.column))

/-- Skips empty lines of a block and the indentation of the next line. -/
def blockBreaks (indent : Nat) (cursor : Cursor) (breaks : List Char) : Nat → List Char × Cursor
  | 0 => (breaks, cursor)
  | fuel + 1 =>
    let after := skipIndentation indent cursor
    if isBreak after.peek then
      let (lineBreak, next) := after.takeBreak
      blockBreaks indent next (breaks ++ lineBreak) fuel
    else
      (breaks, after)

/-- The lines of a block after `text` and the line ends `breaks`. The result
holds the last line end and the empty lines behind the block apart. -/
def blockLines (folded : Bool) (indent : Nat) (text breaks lineBreak : List Char)
    (cursor : Cursor) : Nat → List Char × List Char × List Char × Cursor
  | 0 => (text, lineBreak, breaks, cursor)
  | fuel + 1 =>
    if cursor.column = indent ∧ cursor.peek ≠ '\x00' then
      let startsPlain := !(cursor.peek == ' ' || cursor.peek == '\t')
      let (line, after) := cursor.takeWhile fun c => !isBreakOrEnd c
      let (lineBreak, next) := after.takeBreak
      let (further, last) := blockBreaks indent next [] (next.rest.length + 1)
      let read := text ++ breaks ++ line
      if last.column = indent ∧ last.peek ≠ '\x00' then
        let folds := folded && lineBreak == ['\n'] && startsPlain &&
          !(last.peek == ' ' || last.peek == '\t')
        let joint := if folds then (if further.isEmpty then [' '] else []) else lineBreak
        blockLines folded indent (read ++ joint) further lineBreak last fuel
      else
        (read, lineBreak, further, last)
    else
      (text, lineBreak, breaks, cursor)

/-- Reads a block from its indicator on, in a collection indented by one less
than `least`. -/
def scanBlock (least : Nat) (cursor : Cursor) : Scanned := do
  let folded := cursor.peek == '>'
  let (header, afterHeader) ← scanBlockHeader cursor.advance
  if !isSpaceOrEnd afterHeader.peek then throw .malformed
  let first ← skipIgnoredLine afterHeader
  let least := max least 1
  let size := first.rest.length + 1
  let (indent, breaks, start) :=
    match header.indentation with
    | some indentation =>
      let indent := least + indentation - 1
      let (breaks, start) := blockBreaks indent first [] size
      (indent, breaks, start)
    | none =>
      let (breaks, deepest, start) := blockIndentation first [] 0 size
      (max least deepest, breaks, start)
  let (text, lineBreak, trailing, last) := blockLines folded indent [] breaks [] start size
  let kept :=
    match header.chomping with
    | .strip => []
    | .clip => lineBreak
    | .keep => lineBreak ++ trailing
  pure (text ++ kept, last)

end PatchCoverage.Yaml
