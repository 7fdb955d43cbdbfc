import PatchCoverage.Text.Blank
import PatchCoverage.Text.LetterCase

namespace PatchCoverage.Console

/-!
# Emoji in messages

A name between two colons is a code: where it is the name of an emoji, in letters
of any case, the emoji is shown in its place.  The name has no blank and no colon,
and it may end in the variant of the emoji that is asked for.  A code that names
no emoji is shown as it stands, and its second colon begins no further code.

Which names there are is the terminal library's to say, so they come with the
terminal.
-/

/-- The names of emoji. -/
structure EmojiCodes where
  /-- The emoji with a name in small letters. -/
  emoji? : String → Option String
  /-- No emoji holds a colon. -/
  not_colon : ∀ name emoji, emoji? name = some emoji → ':' ∉ emoji.toList

/-- A terminal. -/
structure Terminal where
  /-- The number of its columns. -/
  columns : Nat
  /-- The emoji it knows. -/
  emoji : EmojiCodes

namespace EmojiCodes

/-- No names at all. -/
def empty : EmojiCodes where
  emoji? _ := none
  not_colon _ _ h := by cases h

/-- The characters that ask for a variant of the emoji before them, by the word
that ends the name. -/
def variants : List (List Char × Char) :=
  [("-emoji".toList, '\uFE0F'), ("-text".toList, '\uFE0E')]

/-- A name without the word for a variant, and the character for that variant. -/
def splitVariant (name : List Char) : List Char × List Char :=
  match variants.find? fun (word, _) => word.isSuffixOf name with
  | some (word, mark) => (name.take (name.length - word.length), [mark])
  | none => (name, [])

/-- What is shown for the name in a code, if it names an emoji. -/
def shown? (codes : EmojiCodes) (name : List Char) : Option (List Char) :=
  let (name, variant) := splitVariant name
  (codes.emoji? (lowerCase (String.ofList name))).map fun emoji => emoji.toList ++ variant

/-- The text of a code that is open, of which `name?` was read since its first colon. -/
def openCode (name? : Option (List Char)) : List Char :=
  (name?.map (':' :: ·)).getD []

/-- What was read since a colon that may begin a code, with one more character. -/
def readOn (name? : Option (List Char)) (c : Char) : Option (List Char) :=
  match name? with
  | none => if c = ':' then some [] else none
  | some name => if c = ':' || isBlank c then none else some (name ++ [c])

/-- What is shown when a character is read: the character, unless a code is open; then
what the code stands for where it ends, or its text where a blank shows that it is no
code. -/
def pass (codes : EmojiCodes) (name? : Option (List Char)) (c : Char) : List Char :=
  match name? with
  | none => if c = ':' then [] else [c]
  | some name =>
    if c = ':' then (codes.shown? name).getD (openCode name? ++ [c])
    else if isBlank c then openCode name? ++ [c]
    else []

/-- A text with emoji in place of their codes, behind a code that is open. -/
def replaceFrom (codes : EmojiCodes) (name? : Option (List Char)) : List Char → List Char
  | [] => openCode name?
  | c :: rest => codes.pass name? c ++ codes.replaceFrom (readOn name? c) rest

/-- A text with emoji in place of their codes. -/
def replace (codes : EmojiCodes) (text : List Char) : List Char :=
  codes.replaceFrom none text

end EmojiCodes

end PatchCoverage.Console
