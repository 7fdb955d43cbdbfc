namespace PatchCoverage.Yaml

/-!
# A place in the text of a document

A cursor holds the text that is still to be read, together with the number of
characters before it, its line and its column.  The end of the text reads as
the zero character, which no document may hold.  Line ends are single
characters here; a carriage return never occurs.
-/

/-- A place in a text. -/
structure Cursor where
  /-- The text from here on. -/
  rest : List Char
  /-- The number of characters before. -/
  index : Nat
  /-- The number of lines before. -/
  line : Nat
  /-- The number of characters before on this line. -/
  column : Nat

/-- A character that ends a line. -/
def isBreak (c : Char) : Bool :=
  c == '\n' || c == '\x85' || c == '\u2028' || c == '\u2029'

/-- The end of the text or of a line. -/
def isBreakOrEnd (c : Char) : Bool :=
  c == '\x00' || isBreak c

/-- What may follow an indicator that stands alone: a blank, the end of the
text or the end of a line. -/
def isGap (c : Char) : Bool :=
  c == ' ' || c == '\t' || isBreakOrEnd c

/-- What may follow a word of a directive or a tag: a space, the end of the
text or the end of a line. -/
def isSpaceOrEnd (c : Char) : Bool :=
  c == ' ' || isBreakOrEnd c

/-- A letter, a digit, a dash or an underscore. -/
def isNameCharacter (c : Char) : Bool :=
  c.isAlphanum || c == '-' || c == '_'

namespace Cursor

/-- The start of a text. -/
def start (text : List Char) : Cursor :=
  ⟨text, 0, 0, 0⟩

/-- The next character. -/
def peek (cursor : Cursor) : Char :=
  cursor.rest.headD '\x00'

/-- The character `distance` places on. -/
def peekAt (cursor : Cursor) (distance : Nat) : Char :=
  (cursor.rest.drop distance).headD '\x00'

/-- The place after the next character. A byte order mark fills no column. -/
def advance (cursor : Cursor) : Cursor :=
  match cursor.rest with
  | [] => cursor
  | c :: rest =>
    if isBreak c then ⟨rest, cursor.index + 1, cursor.line + 1, 0⟩
    else if c = '\uFEFF' then ⟨rest, cursor.index + 1, cursor.line, cursor.column⟩
    else ⟨rest, cursor.index + 1, cursor.line, cursor.column + 1⟩

/-- The place after the next `count` characters. -/
def advanceBy (cursor : Cursor) : Nat → Cursor
  | 0 => cursor
  | count + 1 => cursor.advance.advanceBy count

/-- The characters from here on that satisfy a test, and the place after
them. -/
def takeWhile (cursor : Cursor) (test : Char → Bool) : List Char × Cursor :=
  let taken := cursor.rest.takeWhile test
  (taken, cursor.advanceBy taken.length)

/-- The place after the characters from here on that satisfy a test. -/
def skipWhile (cursor : Cursor) (test : Char → Bool) : Cursor :=
  (cursor.takeWhile test).2

/-- The place after spaces. -/
def skipSpaces (cursor : Cursor) : Cursor :=
  cursor.skipWhile (· == ' ')

/-- The end of this line, if a comment begins here, else this place. -/
def skipComment (cursor : Cursor) : Cursor :=
  if cursor.peek = '#' then cursor.skipWhile fun c => !isBreakOrEnd c else cursor

/-- The line's end at this place, if there is one, and the place after it. All
but the two separators of Unicode read as a line feed. -/
def takeBreak (cursor : Cursor) : List Char × Cursor :=
  let c := cursor.peek
  if c == '\n' || c == '\x85' then (['\n'], cursor.advance)
  else if c == '\u2028' || c == '\u2029' then ([c], cursor.advance)
  else ([], cursor)

/-- Whether three equal characters and a gap stand here. -/
def isTripleMark (cursor : Cursor) (mark : Char) : Bool :=
  cursor.rest.take 3 == [mark, mark, mark] && isGap (cursor.peekAt 3)

/-- Whether a document starts or ends here, given that a line does. -/
def isDocumentMark (cursor : Cursor) : Bool :=
  cursor.isTripleMark '-' || cursor.isTripleMark '.'

end Cursor

end PatchCoverage.Yaml
