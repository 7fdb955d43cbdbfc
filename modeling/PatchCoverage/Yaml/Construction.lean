import PatchCoverage.Number.Literal
import PatchCoverage.Text.LetterCase
import PatchCoverage.Yaml.Node
import PatchCoverage.Yaml.Value

namespace PatchCoverage.Yaml

/-!
# Values of nodes

Each node becomes the value that its tag asks for.  A key `<<` takes in the
entries of other mappings, which the entries written out override; of equal
keys the last value counts.

Values are made level by level, from the outside in.  So of several faults the
one nearest to the top is reported, and of those at the same depth the first;
`Constructed` carries the depth of a fault for that reason.
-/

/-- A value, or a fault with its depth. -/
abbrev Constructed (α : Type) := Except (Nat × Fault) α

/-- Two results, or the shallower fault, the first of two at the same depth. -/
def Constructed.both {α β : Type} (first : Constructed α) (second : Constructed β) :
    Constructed (α × β) :=
  match first, second with
  | .ok left, .ok right => .ok (left, right)
  | .error fault, .ok _ => .error fault
  | .ok _, .error fault => .error fault
  | .error left, .error right => .error (if right.1 < left.1 then right else left)

/-! ## Texts -/

/-- Drops the mark of a base that may stand in front of digits. -/
def dropBaseMark (base : Nat) : List Char → List Char
  | '0' :: mark :: rest =>
    let named := mark.toLower
    if (base = 2 ∧ named = 'b') ∨ (base = 8 ∧ named = 'o') ∨ (base = 16 ∧ named = 'x') then rest
    else '0' :: mark :: rest
  | characters => characters

/-- Reads an integer in base two, eight or sixteen. -/
def readBased (base : Nat) (written : List Char) : Except Fault Int :=
  let text := String.ofList written
  let (negative, body) := takeSign (numberCharacters text)
  let digits := dropBaseMark base body
  let value? :=
    digits.foldlM (fun value c =>
      (Json.hexDigit? c).bind fun digit =>
        if digit < base then some (value * base + digit) else none) 0
  match value? with
  | some value =>
    if digits.isEmpty then .error (.notInteger base text)
    else .ok (if negative then -(value : Int) else value)
  | none => .error (.notInteger base text)

/-- Reads an integer in base ten. -/
def readTen (written : List Char) : Except Fault Int :=
  let text := String.ofList written
  match readInteger text with
  | .ok value => .ok value
  | .error .notInteger => .error (.notInteger 10 text)
  | .error (.tooManyDigits count) => .error (.tooManyDigits count)

/-- The integer of a text: in base two after `0b`, sixteen after `0x`, eight
after another zero, sixty with colons, else ten. -/
def integerOf (text : String) : Except Fault Int := do
  match text.toList.filter (· != '_') with
  | [] => throw .emptyNumeral
  | c :: rest =>
    let sign : Int := if c = '-' then -1 else 1
    let digits := if c = '-' || c = '+' then rest else c :: rest
    match digits with
    | [] => throw .emptyNumeral
    | ['0'] => pure 0
    | '0' :: 'b' :: digits => (readBased 2 digits).map (sign * ·)
    | '0' :: 'x' :: digits => (readBased 16 digits).map (sign * ·)
    | '0' :: _ => (readBased 8 digits).map (sign * ·)
    | _ =>
      if digits.contains ':' then do
        let parts ← (piecesBetween ':' digits).mapM readTen
        pure (sign * parts.foldl (fun value part => value * 60 + part) 0)
      else
        (readTen digits).map (sign * ·)

/-- Reads a number without a sign in front. -/
def readLooseNumber (written : List Char) : Except Fault Binary64 :=
  let text := String.ofList written
  match readNumber? text with
  | some value => .ok value
  | none => .error (.notNumber text)

/-- Adds up parts in base sixty, the last one first; `weight` is the weight of
the next part. -/
def sumSixtieths (sum : Binary64) (weight : Nat) : List Binary64 → Except Fault Binary64
  | [] => .ok sum
  | part :: parts =>
    match Binary64.ofInt weight with
    | .error _ => .error .overflow
    | .ok factor => sumSixtieths (sum + part * factor) (weight * 60) parts

/-- The number of a text: a word for infinity or for no number, parts in base
sixty with colons, else a decimal. -/
def numberOf (text : String) : Except Fault Binary64 := do
  match (lowerCase text).toList.filter (· != '_') with
  | [] => throw .emptyNumeral
  | c :: rest =>
    let digits := if c = '-' || c = '+' then rest else c :: rest
    let magnitude ←
      if digits == ".inf".toList then pure (Binary64.infinity false)
      else if digits == ".nan".toList then pure Binary64.nan
      else if digits.contains ':' then do
        let parts ← (piecesBetween ':' digits).mapM readLooseNumber
        sumSixtieths .zero 1 parts.reverse
      else readLooseNumber digits
    pure (if c = '-' then -magnitude else magnitude)

/-- The truth value of a word. -/
def truthOf (text : String) : Except Fault Bool :=
  let word := lowerCase text
  if word == "yes" || word == "true" || word == "on" then .ok true
  else if word == "no" || word == "false" || word == "off" then .ok false
  else .error .notTruthValue

/-- The date or point in time of a text. -/
def timestampOf (text : String) : Except Fault Value :=
  match readTimestampForm? (withoutLineEnd text).toList with
  | none => .error .notTimestamp
  | some form =>
    let year := digitsValue form.year
    let month := digitsValue form.month
    let day := digitsValue form.day
    let made :=
      match form.time with
      | none => (Date.of year month day).map Value.date
      | some (hour, minute, second) =>
        let fraction := form.fraction.take 6
        let microsecond := digitsValue (fraction ++ List.replicate (6 - fraction.length) '0')
        let offset := form.offset.map fun ((negative : Bool), hours, minutes) =>
          let distance : Int := digitsValue hours * 60 + digitsValue minutes
          if negative then -distance else distance
        (Timestamp.of year month day (digitsValue hour) (digitsValue minute) (digitsValue second)
          microsecond offset).map Value.timestamp
    made.mapError .calendar

/-- The value of a character in base 64. -/
def sixtyFourDigit? (c : Char) : Option Nat :=
  if 'A' ≤ c ∧ c ≤ 'Z' then some (c.toNat - 65)
  else if 'a' ≤ c ∧ c ≤ 'z' then some (c.toNat - 71)
  else if c.isDigit then some (c.toNat + 4)
  else if c = '+' then some 62
  else if c = '/' then some 63
  else none

/-- Reads octets in base 64, four characters for three octets. Characters
outside the alphabet are passed over. `place` is the place within the four,
`carried` the bits that are left over, `pads` the padding seen. -/
def readSixtyFour (octets : List UInt8) (place carried pads : Nat) :
    List Char → Except Fault (List UInt8)
  | [] => if place = 0 then .ok octets.reverse else .error .malformed
  | c :: rest =>
    if c = '=' then
      if 2 ≤ place then
        if 4 ≤ place + pads + 1 then .ok octets.reverse
        else readSixtyFour octets place carried (pads + 1) rest
      else
        readSixtyFour octets place carried pads rest
    else
      match sixtyFourDigit? c with
      | none => readSixtyFour octets place carried pads rest
      | some digit =>
        if place = 0 then readSixtyFour octets 1 digit 0 rest
        else if place = 1 then
          readSixtyFour (UInt8.ofNat (carried * 4 + digit / 16) :: octets) 2 (digit % 16) 0 rest
        else if place = 2 then
          readSixtyFour (UInt8.ofNat (carried * 16 + digit / 4) :: octets) 3 (digit % 4) 0 rest
        else
          readSixtyFour (UInt8.ofNat (carried * 64 + digit) :: octets) 0 0 0 rest

/-- The octets of a text in base 64. -/
def octetsOf (text : String) : Except Fault (List UInt8) :=
  if text.toList.all fun c => c.val < 128 then readSixtyFour [] 0 0 0 text.toList
  else .error .malformed

/-- The value of a text with a tag. -/
def scalarValue (tag : Tag) (text : String) : Except Fault Value :=
  match tag with
  | .null => .ok .null
  | .bool => (truthOf text).map .bool
  | .integer => (integerOf text).map .integer
  | .number => (numberOf text).map .number
  | .octets => (octetsOf text).map .octets
  | .timestamp => timestampOf text
  | .string => .ok (.string text)
  | _ => .error .malformed

/-! ## Collections -/

/-- The text of a mapping's main value. -/
def mainText? : List (Node × Node) → Option String
  | [] => none
  | (.scalar .mainValue _, .scalar _ text) :: _ => some text
  | (.scalar .mainValue _, .mapping _ entries) :: _ => mainText? entries
  | (.scalar .mainValue _, _) :: _ => none
  | _ :: entries => mainText? entries

mutual

/-- Whether a node can be taken in: it is a mapping, or a list of mappings. -/
def canMerge : Node → Bool
  | .mapping _ entries => mergesHold entries
  | .sequence _ items => allMappings items
  | .enclosing isMapping => isMapping
  | .scalar .. => false

/-- Whether every item is a mapping. -/
def allMappings : List Node → Bool
  | [] => true
  | .mapping _ entries :: items => mergesHold entries && allMappings items
  | .enclosing isMapping :: items => isMapping && allMappings items
  | _ :: _ => false

/-- Whether all that is to be taken in can be. -/
def mergesHold : List (Node × Node) → Bool
  | [] => true
  | (key, value) :: entries => (!isMergeKey key || canMerge value) && mergesHold entries

end

/-- Whether a node stands for a value that holds others, which is never a
key. -/
def Node.isContainer : Node → Bool
  | scalar .. => false
  | sequence tag _ => tag.isContainer
  | mapping tag _ => tag.isContainer
  | enclosing _ => true

/-- The keys with values of a mapping, the last value of each key. -/
def distinctEntries (entries : List (Value × Value)) : List (Value × Value) :=
  entries.foldl (fun kept (key, value) => Value.setEntry key value kept) []

mutual

/-- The value of a node at the given depth. -/
def Node.toValue (depth : Nat) : Node → Constructed Value
  | .scalar tag text => (scalarValue tag text).mapError (depth, ·)
  | .enclosing isMapping => .ok (.enclosing isMapping)
  | .sequence tag items =>
    match tag with
    | .sequence => (itemValues (depth + 1) items).map .sequence
    | .orderedPairs => (pairValues (depth + 1) items).map .sequence
    | .mapping | .members => .error (depth + 1, .malformed)
    | _ => .error (depth, .malformed)
  | .mapping tag entries =>
    match tag with
    | .mapping =>
      if !mergesHold entries then .error (depth + 1, .malformed)
      else
        (entryValues (depth + 1) entries).map fun (merged, own) =>
          .mapping (distinctEntries (merged ++ own))
    | .members =>
      if !mergesHold entries then .error (depth + 1, .malformed)
      else
        (entryValues (depth + 1) entries).map fun (merged, own) =>
          .members ((distinctEntries (merged ++ own)).map (·.1))
    | .sequence | .orderedPairs => .error (depth + 1, .malformed)
    | _ =>
      match mainText? entries with
      | some text => (scalarValue tag text).mapError (depth, ·)
      | none => .error (depth, .malformed)

/-- The values of the items of a list. -/
def itemValues (depth : Nat) : List Node → Constructed (List Value)
  | [] => .ok []
  | item :: items =>
    ((item.toValue depth).both (itemValues depth items)).map fun (value, values) => value :: values

/-- The pairs of a list of mappings with one entry each. -/
def pairValues (depth : Nat) : List Node → Constructed (List Value)
  | [] => .ok []
  | .mapping _ [(key, value)] :: items =>
    (((key.toValue depth).both (value.toValue depth)).both (pairValues depth items)).map
      fun ((key, value), pairs) => .pair key value :: pairs
  | _ :: _ => .error (depth, .malformed)

/-- The entries of a mapping: those taken in from other mappings, and those
that it writes out itself. -/
def entryValues (depth : Nat) :
    List (Node × Node) → Constructed (List (Value × Value) × List (Value × Value))
  | [] => .ok ([], [])
  | (key, value) :: entries =>
    if isMergeKey key then
      ((takenIn depth value).both (entryValues depth entries)).map
        fun (first, merged, own) => (first ++ merged, own)
    else
      let madeKey : Constructed Value :=
        match key with
        | .scalar .mainValue text => .ok (.string text)
        | _ => if key.isContainer then .error (depth, .malformed) else key.toValue depth
      ((madeKey.both (value.toValue depth)).both (entryValues depth entries)).map
        fun ((key, value), merged, own) => (merged, (key, value) :: own)

/-- The entries of a node that is taken in; of a list, those of its last item
first. -/
def takenIn (depth : Nat) : Node → Constructed (List (Value × Value))
  | .mapping _ entries =>
    (entryValues depth entries).map fun (merged, own) => merged ++ own
  | .sequence _ items => takenInItems depth items
  | _ => .ok []

/-- The entries of nodes that are taken in, those of the last one first. -/
def takenInItems (depth : Nat) : List Node → Constructed (List (Value × Value))
  | [] => .ok []
  | item :: items =>
    ((takenInItems depth items).both (takenIn depth item)).map
      fun (others, first) => others ++ first

end

end PatchCoverage.Yaml
