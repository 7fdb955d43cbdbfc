import PatchCoverage.Text.Word
import PatchCoverage.World.Environment
import PatchCoverage.Yaml.Value

namespace PatchCoverage

/-!
# Placeholders in a configuration file

A text of the configuration may name environment variables as `${NAME}`.  A
text is cut into segments first, which does not depend on the environment;
then every placeholder is replaced by the value of its variable.  A value that
is put in is never read again.  A variable that is not set reads as nothing,
with a warning.
-/

/-- A part of a text with placeholders. -/
inductive Segment where
  /-- A character that stands for itself. -/
  | literal (c : Char)
  /-- The name of a variable. -/
  | placeholder (name : List Char)
  deriving DecidableEq, Repr

/-- The name of the placeholder at the start of a text, and what follows it. -/
def takePlaceholder? : List Char → Option (List Char × List Char)
  | '$' :: '{' :: rest =>
    match rest.dropWhile isWord with
    | '}' :: after =>
      if (rest.takeWhile isWord).isEmpty then none else some (rest.takeWhile isWord, after)
    | _ => none
  | _ => none

theorem length_lt_of_takePlaceholder? {characters name after : List Char}
    (h : takePlaceholder? characters = some (name, after)) : after.length < characters.length := by
  unfold takePlaceholder? at h
  split at h
  · rename_i rest
    split at h
    · rename_i tail found
      have shorter : (rest.dropWhile isWord).length ≤ rest.length :=
        (List.dropWhile_suffix isWord).length_le
      rw [found] at shorter
      simp only [List.length_cons] at shorter ⊢
      split at h
      · cases h
      · cases h
        omega
    · cases h
  · cases h

/-- The segments of a text, from the left. -/
def segments (characters : List Char) : List Segment :=
  match _found : takePlaceholder? characters with
  | some (name, after) => .placeholder name :: segments after
  | none =>
    match characters with
    | [] => []
    | c :: rest => .literal c :: segments rest
termination_by characters.length
decreasing_by
  · exact length_lt_of_takePlaceholder? _found
  · simp

/-- What a segment reads as. -/
def Segment.expand (environment : Environment) : Segment → List Char
  | literal c => [c]
  | placeholder name => ((environment.get? (String.ofList name)).getD "").toList

/-- The warning about a variable that is not set. -/
def unsetWarning (name : String) : String :=
  "Environment variable " ++ name ++ " is not set (referenced in config)"

/-- What a segment warns of. -/
def Segment.warning? (environment : Environment) : Segment → Option String
  | literal _ => none
  | placeholder name =>
    if (environment.get? (String.ofList name)).isSome then none
    else some (unsetWarning (String.ofList name))

/-- A text with its placeholders replaced. -/
def expandText (environment : Environment) (text : String) : String :=
  String.ofList ((segments text.toList).flatMap (Segment.expand environment))

/-- The warnings of expanding a text. -/
def expansionWarnings (environment : Environment) (text : String) : List String :=
  (segments text.toList).filterMap (Segment.warning? environment)

namespace Yaml.Value

/-- An item of a list with its placeholders replaced. Only texts that are items
themselves are expanded. -/
def expandItem (environment : Environment) : Value → Value
  | string text => string (expandText environment text)
  | value => value

/-- The warnings of expanding an item of a list. -/
def itemWarnings (environment : Environment) : Value → List String
  | string text => expansionWarnings environment text
  | _ => []

mutual

/-- The value of an entry with its placeholders replaced. -/
def expand (environment : Environment) : Value → Value
  | string text => string (expandText environment text)
  | mapping entries => mapping (expandEntries environment entries)
  | sequence items => sequence (items.map (expandItem environment))
  | value => value

/-- Entries with the placeholders of their values replaced. -/
def expandEntries (environment : Environment) : List (Value × Value) → List (Value × Value)
  | [] => []
  | (key, value) :: entries => (key, expand environment value) :: expandEntries environment entries

end

mutual

/-- The warnings of expanding the value of an entry. -/
def warnings (environment : Environment) : Value → List String
  | string text => expansionWarnings environment text
  | mapping entries => entryWarnings environment entries
  | sequence items => items.flatMap (itemWarnings environment)
  | _ => []

/-- The warnings of expanding entries. -/
def entryWarnings (environment : Environment) : List (Value × Value) → List String
  | [] => []
  | (_, value) :: entries => warnings environment value ++ entryWarnings environment entries

end

mutual

/-- Whether mappings alone lead from a value back to one that contains it. -/
def isEndless : Value → Bool
  | mapping entries => entriesEndless entries
  | enclosing isMapping => isMapping
  | _ => false

/-- Whether mappings alone lead from entries back to what contains them. -/
def entriesEndless : List (Value × Value) → Bool
  | [] => false
  | (_, value) :: entries => isEndless value || entriesEndless entries

end

end Yaml.Value

end PatchCoverage
