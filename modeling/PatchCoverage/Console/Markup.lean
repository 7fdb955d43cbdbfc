import PatchCoverage.Console.Action
import PatchCoverage.Console.Emoji
import PatchCoverage.Console.Style

namespace PatchCoverage.Console

/-!
# Messages with tags

A message marks styles with tags in square brackets: `[red]` opens, `[/red]`
closes what it names, and `[/]` closes what was opened last.  A bracket begins
a tag only before a small letter, `#`, `/` or `@`, and only when it is closed
before another bracket opens.  An odd number of backslashes in front takes the
tag as text; of every two backslashes one is shown.

What follows an equals sign in a tag are its parameters: the action of a tag
whose name begins with `@`, more words of the style of any other tag.

The text between two tags is a run of its own for emoji codes, and so is a tag
that is taken as text: a code does not reach over a tag.

`Markup.plain` is what a message shows.  `Markup.escape` protects a text, so
that it has no tags; it leaves the codes in it as they are.
-/

/-- Why a message cannot be shown. -/
inductive MarkupError where
  /-- A closing tag closes nothing; it is given without its brackets. -/
  | unmatched (tag : String)
  /-- What a closing tag closes has parameters that are no action. -/
  | notAction (parameters : String)
  /-- A number of a colour in a tag cannot be read. -/
  | unreadableColour
  deriving DecidableEq, Repr

namespace Markup

/-- What a message is made of. -/
inductive Item where
  /-- A character. -/
  | character (c : Char)
  /-- An opening bracket that begins no tag, after some backslashes. -/
  | bracket (slashes : Nat)
  /-- A tag after some backslashes. -/
  | tag (slashes : Nat) (body : List Char)
  deriving DecidableEq, Repr

/-- Whether a tag can begin with a character. -/
def beginsTag (c : Char) : Bool :=
  ('a' ≤ c && c ≤ 'z') || c == '#' || c == '/' || c == '@'

/-- The characters up to a closing bracket, with no other bracket opening
before it, and what follows it. -/
def takeToBracket? : List Char → Option (List Char × List Char)
  | [] => none
  | ']' :: rest => some ([], rest)
  | '[' :: _ => none
  | c :: rest => (takeToBracket? rest).map fun (body, rest) => (c :: body, rest)

/-- Splits off the body of a tag, after its opening bracket. -/
def takeTag? : List Char → Option (List Char × List Char)
  | [] => none
  | c :: rest =>
    if beginsTag c then (takeToBracket? rest).map fun (body, rest) => (c :: body, rest) else none

/-- What follows a closing bracket is shorter. -/
theorem length_of_takeToBracket? {characters body rest : List Char}
    (h : takeToBracket? characters = some (body, rest)) : rest.length < characters.length := by
  induction characters generalizing body rest with
  | nil => simp [takeToBracket?] at h
  | cons c characters ih =>
    unfold takeToBracket? at h
    split at h
    · simp_all
    · simp_all
    · simp at h
    · rename_i heq
      obtain ⟨rfl, rfl⟩ := heq
      obtain ⟨⟨body', rest'⟩, found, same⟩ := Option.map_eq_some_iff.mp h
      obtain ⟨-, rfl⟩ := Prod.mk.inj same
      exact Nat.lt_succ_of_lt (ih found)

/-- What follows a tag is shorter. -/
theorem length_of_takeTag? {characters body rest : List Char}
    (h : takeTag? characters = some (body, rest)) : rest.length < characters.length := by
  unfold takeTag? at h
  split at h
  · simp at h
  · split at h
    · obtain ⟨⟨body', rest'⟩, found, same⟩ := Option.map_eq_some_iff.mp h
      obtain ⟨-, rfl⟩ := Prod.mk.inj same
      exact Nat.lt_succ_of_lt (length_of_takeToBracket? found)
    · simp at h

/-- The items of a message; `slashes` counts the backslashes just before. -/
def items (slashes : Nat) : List Char → List Item
  | [] => List.replicate slashes (.character '\\')
  | c :: rest =>
    if c = '\\' then
      items (slashes + 1) rest
    else if c = '[' then
      match _ : takeTag? rest with
      | some (body, after) => .tag slashes body :: items 0 after
      | none => .bracket slashes :: items 0 rest
    else
      List.replicate slashes (.character '\\') ++ .character c :: items 0 rest
termination_by characters => characters.length
decreasing_by
  all_goals simp only [List.length_cons]
  · omega
  · have := length_of_takeTag? ‹_›
    omega
  · omega
  · omega

/-- A tag that opens a style or an action. -/
structure OpenTag where
  /-- The name, the same for all names of one style. -/
  name : String
  /-- The parameters, if there is an equals sign. -/
  parameters? : Option String
  deriving DecidableEq, Repr

/-- The name in a tag: what stands before an equals sign. -/
def tagName (body : List Char) : List Char :=
  body.takeWhile (· != '=')

/-- The parameters in a tag: what stands after an equals sign. -/
def tagParameters? (body : List Char) : Option String :=
  (body.dropWhile (· != '=')).tail?.map String.ofList

/-- The name of the style that a text names. -/
def knownName (text : String) : Except MarkupError String :=
  match styleName? text with
  | some name => .ok name
  | none => .error .unreadableColour

/-- Takes the open tag with the given name that was opened last off the open
ones. -/
def takeNamed? (name : String) : List OpenTag → Option (OpenTag × List OpenTag)
  | [] => none
  | tag :: rest =>
    if tag.name = name then some (tag, rest)
    else (takeNamed? name rest).map fun (taken, left) => (taken, tag :: left)

/-- Refuses to close a tag whose action is none. -/
def OpenTag.close (tag : OpenTag) : Except MarkupError Unit :=
  match tag.parameters? with
  | some parameters =>
    if tag.name.toList.head? = some '@' && !parameters.isEmpty && !isAction parameters then
      .error (.notAction parameters)
    else .ok ()
  | none => .ok ()

/-- The open tags after a tag; the one that was opened last is first. -/
def applyTag (opened : List OpenTag) (body : List Char) : Except MarkupError (List OpenTag) :=
  match tagName body with
  | '/' :: name => do
    let name := trimBlank (String.ofList name)
    let taken ←
      if name.isEmpty then pure (opened.head?.map fun tag => (tag, opened.tail))
      else (knownName name).map fun name => takeNamed? name opened
    match taken with
    | none => .error (.unmatched (String.ofList body))
    | some (tag, left) => do
      tag.close
      pure left
  | name => do
    let name ← knownName (String.ofList name)
    pure (⟨name, tagParameters? body⟩ :: opened)

/-- Whether an opening tag with parameters is painted in a colour that cannot be
read. -/
def paintsUnreadable (body : List Char) : Bool :=
  match tagParameters? body, styleName? (String.ofList (tagName body)) with
  | some parameters, some name =>
    body.head? != some '/' &&
      match readStyle {} (styleWords name ++ styleWords parameters) with
      | .error .unreadableColour => true
      | _ => false
  | _, _ => false

/-- Whether an item is a tag that is painted in such a colour. -/
def Item.paintsUnreadable : Item → Bool
  | .tag slashes body => slashes % 2 = 0 && Markup.paintsUnreadable body
  | _ => false

/-- Goes through the tags of items, given the open ones. A tag that is taken as text
opens and closes nothing. -/
def checkTags (opened : List OpenTag) : List Item → Except MarkupError Unit
  | [] => .ok ()
  | .tag slashes body :: rest => do
    let opened ← if slashes % 2 = 1 then pure opened else applyTag opened body
    checkTags opened rest
  | _ :: rest => checkTags opened rest

/-- What an item shows if the tags of its message are right. -/
def Item.shown : Item → List Char
  | .character c => [c]
  | .bracket slashes => List.replicate (slashes - 1) '\\' ++ ['[']
  | .tag slashes body =>
    List.replicate (slashes / 2) '\\' ++ if slashes % 2 = 1 then '[' :: body ++ [']'] else []

/-- Puts a text in front of the first of some runs. -/
def joinFirst (text : List Char) : List (List Char) → List (List Char)
  | [] => [text]
  | run :: runs => (text ++ run) :: runs

/-- The runs of text that items show. -/
def runs : List Item → List (List Char)
  | [] => []
  | .tag slashes body :: rest => [] :: Item.shown (.tag slashes body) :: runs rest
  | item :: rest => joinFirst item.shown (runs rest)

/-- Control characters that are not shown. -/
def isHidden (c : Char) : Bool :=
  c == '\x07' || c == '\x08' || c == '\x0b' || c == '\x0c' || c == '\r'

/-- What a message shows. Colours in parameters are read last. -/
def plain (codes : EmojiCodes) (message : String) : Except MarkupError (List Char) := do
  let items := items 0 message.toList
  checkTags [] items
  if items.any Item.paintsUnreadable then .error .unreadableColour
  else pure (((runs items).flatMap codes.replace).filter fun c => !isHidden c)

/-- An item as it is written so that it is text. -/
def escapeItem : Item → List Char
  | .character c => [c]
  | .bracket slashes => List.replicate slashes '\\' ++ ['[']
  | .tag slashes body => List.replicate (2 * slashes + 1) '\\' ++ '[' :: body ++ [']']

/-- A text as a message without tags. A single backslash at the end is doubled,
so that it does not touch what follows. -/
def escape (text : String) : String :=
  let escaped := (items 0 text.toList).flatMap escapeItem
  let ending := escaped.reverse.takeWhile (· == '\\')
  String.ofList (if ending.length = 1 then escaped ++ ['\\'] else escaped)

end Markup

end PatchCoverage.Console
