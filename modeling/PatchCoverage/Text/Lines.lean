namespace PatchCoverage

/-!
# Lines of a text

A text file writes the end of a line as a line feed, a carriage return or both
in a row; `unifyNewlines` reads all of them as one line feed.  `splitLines`
cuts a text at every line boundary, of which there are ten; a boundary at the
very end opens no further line.
-/

/-- A character that ends a line. -/
def isLineBoundary (c : Char) : Bool :=
  let code := c.toNat
  (10 ≤ code && code ≤ 13) || (0x1c ≤ code && code ≤ 0x1e) || code == 0x85 ||
    code == 0x2028 || code == 0x2029

/-- Every written form of a line's end as one line feed. -/
def unifyNewlines : List Char → List Char
  | [] => []
  | '\r' :: '\n' :: rest => '\n' :: unifyNewlines rest
  | '\r' :: rest => '\n' :: unifyNewlines rest
  | c :: rest => c :: unifyNewlines rest

/-- The lines of a text; `line` holds the current one, last character first. -/
def splitLinesFrom (line : List Char) : List Char → List (List Char)
  | [] => if line.isEmpty then [] else [line.reverse]
  | '\r' :: '\n' :: rest => line.reverse :: splitLinesFrom [] rest
  | c :: rest =>
    if isLineBoundary c then line.reverse :: splitLinesFrom [] rest
    else splitLinesFrom (c :: line) rest

/-- The lines of a text, without their boundaries. -/
def splitLines (text : String) : List String :=
  (splitLinesFrom [] text.toList).map String.ofList

/-- The pieces between the occurrences of a character: one more than there are
occurrences. -/
def piecesBetween (separator : Char) : List Char → List (List Char)
  | [] => [[]]
  | c :: rest =>
    if c = separator then
      [] :: piecesBetween separator rest
    else
      match piecesBetween separator rest with
      | [] => [[c]]
      | piece :: pieces => (c :: piece) :: pieces

end PatchCoverage
