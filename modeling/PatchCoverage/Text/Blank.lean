namespace PatchCoverage

/-!
# Blank characters and trimming

Two sets of blanks are in use.  `isBlank` holds every white-space character,
the four separators `U+001C` to `U+001F` included; it decides which lines are
empty and what is trimmed from a path.  `isNumberBlank` leaves those four out;
it is what may surround a number.
-/

/-- White space beyond ASCII. -/
def isWideBlank (c : Char) : Bool :=
  let code := c.toNat
  code == 0x85 || code == 0xa0 || code == 0x1680 || (0x2000 ≤ code && code ≤ 0x200a) ||
    code == 0x2028 || code == 0x2029 || code == 0x202f || code == 0x205f || code == 0x3000

/-- White space that may surround a number. -/
def isNumberBlank (c : Char) : Bool :=
  let code := c.toNat
  (9 ≤ code && code ≤ 13) || code == 32 || isWideBlank c

/-- White space of every kind. -/
def isBlank (c : Char) : Bool :=
  isNumberBlank c || (0x1c ≤ c.toNat && c.toNat ≤ 0x1f)

/-- Drops leading characters that satisfy a test, and trailing ones. -/
def trimBoth (drop : Char → Bool) (characters : List Char) : List Char :=
  ((characters.dropWhile drop).reverse.dropWhile drop).reverse

/-- Drops trailing characters that satisfy a test. -/
def trimEnd (drop : Char → Bool) (characters : List Char) : List Char :=
  (characters.reverse.dropWhile drop).reverse

/-- A text without the blanks around it. -/
def trimBlank (text : String) : String :=
  String.ofList (trimBoth isBlank text.toList)

/-- The words between blanks; `word` holds the current one, last character
first. -/
def wordsBetweenBlanksFrom (word : List Char) : List Char → List (List Char)
  | [] => if word.isEmpty then [] else [word.reverse]
  | c :: rest =>
    if isBlank c then
      if word.isEmpty then wordsBetweenBlanksFrom [] rest
      else word.reverse :: wordsBetweenBlanksFrom [] rest
    else
      wordsBetweenBlanksFrom (c :: word) rest

/-- The words between blanks. -/
def wordsBetweenBlanks (characters : List Char) : List (List Char) :=
  wordsBetweenBlanksFrom [] characters

/-- A text of blanks only. -/
def isBlankText (text : String) : Bool :=
  text.toList.all isBlank

end PatchCoverage
