import PatchCoverage.Text.Blank
import PatchCoverage.Text.Cluster
import PatchCoverage.Text.Lines

namespace PatchCoverage.Console

/-!
# Fitting text into columns

A line that is too wide is broken between words.  A word keeps the blanks
around it, so that joining the pieces gives the line back, until blanks that
stick out at the end of a piece are dropped.  A word that is wider than a whole
line is folded or cut short, as the `Overflow` says.

Measuring a line and cutting it into clusters take a joiner at its beginning in two ways.
Where the clusters of a line are narrower than the line is measured, it is cut behind the
last of them.
-/

/-- What happens to text that is wider than its line. -/
inductive Overflow where
  /-- It goes on in the next line. -/
  | fold
  /-- It is cut short, with three dots as its last character. -/
  | ellipsis
  deriving DecidableEq, Repr

/-- Where a text stands in its line. -/
inductive Alignment where
  /-- At the left, with nothing added. -/
  | ragged
  /-- At the left, filled up with blanks. -/
  | left
  /-- In the middle, filled up on both sides. -/
  | centre
  /-- At the right, filled up on the left. -/
  | right
  deriving DecidableEq, Repr

/-- The distance between tab stops. -/
def tabStop : Nat := 8

/-- The columns from the end of `column` columns to the next tab stop, none at
a stop. -/
def tabFill (column : Nat) : Nat :=
  (tabStop - column % tabStop) % tabStop

/-- Blanks in place of the tabs between pieces of a text: a tab is one blank and
as many more as the next stop is away. `column` is where the first piece
begins. -/
def fillTabs (column : Nat) : List (List Char) → List Char
  | [] => []
  | [piece] => piece
  | piece :: rest =>
    let piece := piece ++ [' ']
    let next := column + textWidth piece
    let fill := tabFill next
    piece ++ List.replicate fill ' ' ++ fillTabs (next + fill) rest

/-- Blanks in place of tabs. -/
def expandTabs (line : List Char) : List Char :=
  fillTabs 0 (piecesBetween '\t' line)

/-- The clusters that fill `room` columns; one column of a wide cluster that
would stick out stays blank. -/
def takeColumns (room : Nat) : List Cluster → List Char
  | [] => []
  | cluster :: rest =>
    if room = 0 then []
    else if cluster.width ≤ room then
      cluster.characters ++ takeColumns (room - cluster.width) rest
    else [' ']

/-- A text cut or filled up with blanks to exactly `total` columns. -/
def setWidth (total : Nat) (text : List Char) : List Char :=
  if total = 0 then []
  else
    let width := textWidth text
    if width ≤ total then text ++ List.replicate (total - width) ' '
    else takeColumns total (clusters text)

/-- A text cut to at most `width` columns. -/
def truncate (overflow : Overflow) (width : Nat) (text : List Char) : List Char :=
  if textWidth text ≤ width then text
  else
    match overflow with
    | .fold => setWidth width text
    | .ellipsis => setWidth (width - 1) text ++ ['…']

/-- The words of a line, each with the blanks around it; `word` holds the
current one, last character first, and `solid` tells whether it has more than
blanks. -/
def wordsWithBlanks (word : List Char) (solid : Bool) : List Char → List (List Char)
  | [] => if solid then [word.reverse] else []
  | c :: rest =>
    if isBlank c then
      wordsWithBlanks (c :: word) solid rest
    else if solid && word.head?.any isBlank then
      word.reverse :: wordsWithBlanks [c] true rest
    else
      wordsWithBlanks (c :: word) true rest

/-- Pieces of at most `width` columns; `piece` is the current one and `used` its
width. -/
def chop (width : Nat) (piece : List Char) (used : Nat) : List Cluster → List (List Char)
  | [] => [piece]
  | cluster :: rest =>
    if width < used + cluster.width then
      piece :: chop width cluster.characters cluster.width rest
    else
      chop width (piece ++ cluster.characters) (used + cluster.width) rest

/-- A break at a position, unless it is the beginning of the line. -/
def breakAt (position : Nat) : List Nat :=
  if position = 0 then [] else [position]

/-- The breaks in front of pieces that begin at `position`, and the width of
the last piece. -/
def breaksBefore (position : Nat) : List (List Char) → List Nat × Nat
  | [] => ([], 0)
  | [piece] => (breakAt position, textWidth piece)
  | piece :: rest =>
    let (breaks, last) := breaksBefore (position + piece.length) rest
    (breakAt position ++ breaks, last)

/-- The positions at which words have to be broken into lines; `used` columns
of the current line are taken, and the words begin at `position`. -/
def lineBreaks (overflow : Overflow) (width used position : Nat) : List (List Char) → List Nat
  | [] => []
  | word :: rest =>
    let needed := textWidth (trimEnd isBlank word)
    let next := position + word.length
    if used + needed ≤ width then
      lineBreaks overflow width (used + textWidth word) next rest
    else if width < needed then
      match overflow with
      | .fold =>
        let (breaks, last) := breaksBefore position (chop width [] 0 (clusters word))
        breaks ++ lineBreaks overflow width last next rest
      | .ellipsis =>
        breakAt position ++ lineBreaks overflow width (textWidth word) next rest
    else if used ≠ 0 && position ≠ 0 then
      position :: lineBreaks overflow width (textWidth word) next rest
    else
      lineBreaks overflow width used next rest

/-- The pieces of a text between positions; the text begins at `position`. -/
def cutAt (position : Nat) (text : List Char) : List Nat → List (List Char)
  | [] => [text]
  | next :: rest => text.take (next - position) :: cutAt next (text.drop (next - position)) rest

/-- Drops blanks at the end of a text that is longer than `size` characters,
no more of them than it is too long. -/
def dropExcessBlanks (size : Nat) (text : List Char) : List Char :=
  let blanks := text.length - (trimEnd isBlank text).length
  text.take (text.length - min blanks (text.length - size))

/-- A text in a line of `width` columns. -/
def align (alignment : Alignment) (overflow : Overflow) (width : Nat) (text : List Char) :
    List Char :=
  match alignment with
  | .ragged => text
  | .left =>
    let text := truncate overflow width text
    text ++ List.replicate (width - textWidth text) ' '
  | .centre =>
    let text := truncate overflow width (trimEnd isBlank text)
    let free := width - textWidth text
    List.replicate (free / 2) ' ' ++ text ++ List.replicate (free - free / 2) ' '
  | .right =>
    let text := truncate overflow width (trimEnd isBlank text)
    List.replicate (width - textWidth text) ' ' ++ text

/-- A line in as many lines of `width` columns as it needs. -/
def wrapLine (alignment : Alignment) (overflow : Overflow) (width : Nat) (line : List Char) :
    List (List Char) :=
  let line := expandTabs line
  let breaks := lineBreaks overflow width 0 0 (wordsWithBlanks [] false line)
  (cutAt 0 line breaks).map fun piece =>
    truncate overflow width (align alignment overflow width (dropExcessBlanks width piece))

/-- A text in lines of `width` columns. -/
def wrap (alignment : Alignment) (overflow : Overflow) (width : Nat) (text : List Char) :
    List (List Char) :=
  (piecesBetween '\n' text).flatMap (wrapLine alignment overflow width)

end PatchCoverage.Console
