import PatchCoverage.Text.Quoted
import PatchCoverage.Yaml.Calendar

namespace PatchCoverage.Yaml

/-!
# Values of a document

What a document means once tags and plain words are resolved.  A value has two
writings: `shown` is how messages quote it, and `text` is how it reads where a
text is asked for; they differ for texts and for dates.

Keys of a mapping are compared as values: numbers by their size, whatever
their kind, so that `1`, `1.0` and `true` are one key.

A set has no order of its own.  Its members are kept and shown in the order in
which the document mentions them; the interpreter shows them in an order that it
draws anew for each run.
-/

/-- A value. -/
inductive Value where
  /-- The missing value. -/
  | null
  /-- A truth value. -/
  | bool (value : Bool)
  /-- An integer. -/
  | integer (value : Int)
  /-- Any other number. -/
  | number (value : Binary64)
  /-- A text. -/
  | string (value : String)
  /-- A string of octets. -/
  | octets (value : List UInt8)
  /-- A day. -/
  | date (value : Date)
  /-- A point in time. -/
  | timestamp (value : Timestamp)
  /-- An ordered list. -/
  | sequence (items : List Value)
  /-- Keys with values, in order of the first mention of each key. -/
  | mapping (entries : List (Value × Value))
  /-- A set, in order of the first mention of each member. -/
  | members (items : List Value)
  /-- A key with its value, as an item of an ordered list of such pairs. -/
  | pair (key value : Value)
  /-- A value that contains this very place. -/
  | enclosing (isMapping : Bool)

namespace Value

/-- The size of a value that is a number: the exact count of quanta. -/
def magnitude? : Value → Option (Option Int)
  | bool value => some (some (if value then Binary64.quantaPerUnit else 0))
  | integer value => some (some (value * Binary64.quantaPerUnit))
  | number (.finite negative quanta _ _) => some (some (Binary64.signedQuanta negative quanta))
  | number _ => some none
  | _ => none

/-- Whether two values are the same as keys. -/
def sameKey : Value → Value → Bool
  | null, null => true
  | string first, string second => first == second
  | octets first, octets second => first == second
  | date first, date second => first == second
  | timestamp first, timestamp second => first.same second
  | number (.infinity first), number (.infinity second) => first == second
  | first, second =>
    match first.magnitude?, second.magnitude? with
    | some (some left), some (some right) => left == right
    | _, _ => false

/-- Entries with one more: the value of a key that is there is replaced, a new
key comes last. -/
def setEntry (key value : Value) : List (Value × Value) → List (Value × Value)
  | [] => [(key, value)]
  | entry :: entries =>
    if entry.1.sameKey key then (entry.1, value) :: entries
    else entry :: setEntry key value entries

/-- The value of a key that is a text. -/
def entry? (name : String) : List (Value × Value) → Option Value
  | [] => none
  | (string key, value) :: entries => if key == name then some value else entry? name entries
  | _ :: entries => entry? name entries

/-- The word for a truth value in messages. -/
def truthWord (value : Bool) : String :=
  if value then "True" else "False"

mutual

/-- A value as messages quote it. -/
def shown : Value → String
  | null => "None"
  | bool value => truthWord value
  | integer value => integerText value
  | number value => value.shortestText
  | string value => quoted value
  | octets value => quotedOctets value
  | date value => value.shown
  | timestamp value => value.shown
  | sequence items => "[" ++ ", ".intercalate (shownItems items) ++ "]"
  | mapping entries => "\x7b" ++ ", ".intercalate (shownEntries entries) ++ "\x7d"
  | members [] => "set()"
  | members items => "\x7b" ++ ", ".intercalate (shownItems items) ++ "\x7d"
  | pair key value => "(" ++ shown key ++ ", " ++ shown value ++ ")"
  | enclosing isMapping => if isMapping then "\x7b...\x7d" else "[...]"

/-- Values as messages quote them. -/
def shownItems : List Value → List String
  | [] => []
  | item :: items => shown item :: shownItems items

/-- Entries as messages quote them. -/
def shownEntries : List (Value × Value) → List String
  | [] => []
  | (key, value) :: entries => (shown key ++ ": " ++ shown value) :: shownEntries entries

end

/-- A value as a text. -/
def text : Value → String
  | string value => value
  | date value => value.text
  | timestamp value => value.text " "
  | value => value.shown

mutual

/-- Whether every integer of a value has few enough digits to be written. -/
def isWritable : Value → Bool
  | integer value => integerFits value
  | sequence items => itemsWritable items
  | mapping entries => entriesWritable entries
  | members items => itemsWritable items
  | pair key value => isWritable key && isWritable value
  | _ => true

/-- Whether every integer of the values has few enough digits. -/
def itemsWritable : List Value → Bool
  | [] => true
  | item :: items => isWritable item && itemsWritable items

/-- Whether every integer of the entries has few enough digits. -/
def entriesWritable : List (Value × Value) → Bool
  | [] => true
  | (key, value) :: entries => isWritable key && isWritable value && entriesWritable entries

end

/-- Whether a value counts as given: not missing, false, zero or empty. -/
def isGiven : Value → Bool
  | null => false
  | bool value => value
  | integer value => value != 0
  | number (.finite _ quanta _ _) => quanta != 0
  | string value => !value.isEmpty
  | octets value => !value.isEmpty
  | sequence items => !items.isEmpty
  | mapping entries => !entries.isEmpty
  | members items => !items.isEmpty
  | _ => true

end Value

end PatchCoverage.Yaml
