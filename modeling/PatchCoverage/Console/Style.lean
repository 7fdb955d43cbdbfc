import PatchCoverage.Number.Decimal
import PatchCoverage.Text.Blank
import PatchCoverage.Text.Digit
import PatchCoverage.Text.LetterCase
import PatchCoverage.Text.Lines

namespace PatchCoverage.Console

/-!
# Names of text styles

A tag in a message names a style by words: attributes such as `bold` or its
short form `b`, `not` in front of an attribute, a colour, `on` in front of the
colour behind the text, and `link` in front of an address.  Nothing is painted
here.  All that counts is which names mean the same style, because a closing
tag has to name the style that it closes.
-/

/-- The attributes of text, in the order in which a style lists them. -/
def attributeNames : List String :=
  ["bold", "dim", "italic", "underline", "blink", "blink2", "reverse", "conceal", "strike",
    "underline2", "frame", "encircle", "overline"]

/-- Short forms of attributes. -/
def attributeShorts : List (String × String) :=
  [("b", "bold"), ("d", "dim"), ("i", "italic"), ("u", "underline"), ("r", "reverse"),
    ("c", "conceal"), ("s", "strike"), ("uu", "underline2"), ("o", "overline")]

/-- The attribute that a word names. -/
def attribute? (word : String) : Option String :=
  (attributeShorts.lookup word).or (attributeNames.find? (· == word))

/-- The names of colours, between blanks. -/
def colourTable : String :=
  ("aquamarine1 aquamarine3 black blue blue1 blue3 blue_violet bright_black bright_blue " ++
   "bright_cyan bright_green bright_magenta bright_red bright_white bright_yellow cadet_blue " ++
   "chartreuse1 chartreuse2 chartreuse3 chartreuse4 cornflower_blue cornsilk1 cyan cyan1 " ++
   "cyan2 cyan3 dark_blue dark_cyan dark_goldenrod dark_green dark_khaki dark_magenta " ++
   "dark_olive_green1 dark_olive_green2 dark_olive_green3 dark_orange dark_orange3 dark_red " ++
   "dark_sea_green dark_sea_green1 dark_sea_green2 dark_sea_green3 dark_sea_green4 " ++
   "dark_slate_gray1 dark_slate_gray2 dark_slate_gray3 dark_turquoise dark_violet deep_pink1 " ++
   "deep_pink2 deep_pink3 deep_pink4 deep_sky_blue1 deep_sky_blue2 deep_sky_blue3 " ++
   "deep_sky_blue4 dodger_blue1 dodger_blue2 dodger_blue3 gold1 gold3 gray0 gray100 gray11 " ++
   "gray15 gray19 gray23 gray27 gray3 gray30 gray35 gray37 gray39 gray42 gray46 gray50 " ++
   "gray53 gray54 gray58 gray62 gray63 gray66 gray69 gray7 gray70 gray74 gray78 gray82 " ++
   "gray84 gray85 gray89 gray93 green green1 green3 green4 green_yellow grey0 grey100 grey11 " ++
   "grey15 grey19 grey23 grey27 grey3 grey30 grey35 grey37 grey39 grey42 grey46 grey50 " ++
   "grey53 grey54 grey58 grey62 grey63 grey66 grey69 grey7 grey70 grey74 grey78 grey82 " ++
   "grey84 grey85 grey89 grey93 honeydew2 hot_pink hot_pink2 hot_pink3 indian_red " ++
   "indian_red1 khaki1 khaki3 light_coral light_cyan1 light_cyan3 light_goldenrod1 " ++
   "light_goldenrod2 light_goldenrod3 light_green light_pink1 light_pink3 light_pink4 " ++
   "light_salmon1 light_salmon3 light_sea_green light_sky_blue1 light_sky_blue3 " ++
   "light_slate_blue light_slate_gray light_slate_grey light_steel_blue light_steel_blue1 " ++
   "light_steel_blue3 light_yellow3 magenta magenta1 magenta2 magenta3 medium_orchid " ++
   "medium_orchid1 medium_orchid3 medium_purple medium_purple1 medium_purple2 medium_purple3 " ++
   "medium_purple4 medium_spring_green medium_turquoise medium_violet_red misty_rose1 " ++
   "misty_rose3 navajo_white1 navajo_white3 navy_blue orange1 orange3 orange4 orange_red1 " ++
   "orchid orchid1 orchid2 pale_green1 pale_green3 pale_turquoise1 pale_turquoise4 " ++
   "pale_violet_red1 pink1 pink3 plum1 plum2 plum3 plum4 purple purple3 purple4 red red1 " ++
   "red3 rosy_brown royal_blue1 salmon1 sandy_brown sea_green1 sea_green2 sea_green3 " ++
   "sky_blue1 sky_blue2 sky_blue3 slate_blue1 slate_blue3 spring_green1 spring_green2 " ++
   "spring_green3 spring_green4 steel_blue steel_blue1 steel_blue3 tan thistle1 thistle3 " ++
   "turquoise2 turquoise4 violet wheat1 wheat4 white yellow yellow1 yellow2 yellow3 yellow4 " ++
   "default")

/-- The names of colours. -/
def colourNames : List String :=
  (wordsBetweenBlanks colourTable.toList).map String.ofList

/-- Whether decimal digits write a number up to 255. -/
def isOctetNumber (digits : List Char) : Bool :=
  match digits.mapM digitValue? with
  | some values => !values.isEmpty && values.foldl (fun value digit => value * 10 + digit) 0 ≤ 255
  | none => false

/-- Whether characters are those of a colour by number: six hexadecimal digits,
one number or three. -/
def isColourNumber : List Char → Bool
  | '#' :: digits =>
    digits.length == 6 && digits.all fun c => c.isDigit || ('a' ≤ c && c ≤ 'f')
  | 'c' :: 'o' :: 'l' :: 'o' :: 'r' :: '(' :: rest =>
    let digits := rest.dropLast
    rest.getLast? == some ')' && digits.length ≤ 3 && digits.all Char.isDigit &&
      isOctetNumber digits
  | 'r' :: 'g' :: 'b' :: '(' :: rest =>
    let parts := piecesBetween ',' rest.dropLast
    rest.getLast? == some ')' && parts.length == 3 && parts.all isOctetNumber
  | _ => false

/-- Whether characters are `rgb(…)` with three numbers, one of which has no
digits or too many. -/
def isUnreadableColour : List Char → Bool
  | 'r' :: 'g' :: 'b' :: '(' :: rest =>
    let parts := piecesBetween ',' rest.dropLast
    rest.getLast? == some ')' && parts.length == 3 &&
      parts.all (fun digits => digits.all fun c => (digitValue? c).isSome) &&
      parts.any (fun digits => digits.isEmpty || digitLimit < digits.length)
  | _ => false

/-- Why words are no style. -/
inductive StyleFault where
  /-- A word means nothing in its place. -/
  | unknownWord
  /-- A number of a colour cannot be read. -/
  | unreadableColour
  deriving DecidableEq, Repr

/-- A colour as it is written in small letters. -/
def readColour (word : String) : Except StyleFault String :=
  if isUnreadableColour word.toList then .error .unreadableColour
  else if colourNames.contains word || isColourNumber word.toList then .ok word
  else .error .unknownWord

/-- What a style says. -/
structure Style where
  /-- Attributes that are switched on or off; the last mention is first. -/
  attributes : List (String × Bool) := []
  /-- The colour of the text. -/
  colour : Option String := none
  /-- The colour behind the text. -/
  background : Option String := none
  /-- The address that the text links to. -/
  link : Option String := none

/-- Reads the words of a style. -/
def readStyle (style : Style) : List String → Except StyleFault Style
  | [] => .ok style
  | word :: rest =>
    match lowerCase word, rest with
    | "on", colour :: rest => do
      let colour ← readColour (lowerCase colour)
      readStyle { style with background := some colour } rest
    | "not", word :: rest =>
      match attribute? word with
      | some name => readStyle { style with attributes := (name, false) :: style.attributes } rest
      | none => .error .unknownWord
    | "link", address :: rest => readStyle { style with link := some address } rest
    | word, rest =>
      match attribute? word with
      | some name => readStyle { style with attributes := (name, true) :: style.attributes } rest
      | none => do
        let colour ← readColour word
        readStyle { style with colour := some colour } rest

/-- The words of a style in their fixed order. -/
def Style.words (style : Style) : List String :=
  (attributeNames.flatMap fun name =>
    match style.attributes.lookup name with
    | some true => [name]
    | some false => ["not", name]
    | none => []) ++
  style.colour.toList ++
  (style.background.map fun colour => ["on", colour]).getD [] ++
  (style.link.map fun address => ["link", address]).getD []

/-- The words of a text that names a style. -/
def styleWords (text : String) : List String :=
  (wordsBetweenBlanks text.toList).map String.ofList

/-- A name that is the same for all names of one style. A text that names no
style stands for itself, without its blanks and in small letters. There is no
name if a colour cannot be read. -/
def styleName? (text : String) : Option String :=
  let words := styleWords text
  if text.isEmpty || words == ["none"] then some "none"
  else
    match readStyle {} words with
    | .ok style => some (if style.words.isEmpty then "none" else " ".intercalate style.words)
    | .error .unknownWord => some (lowerCase (trimBlank text))
    | .error .unreadableColour => none

end PatchCoverage.Console
