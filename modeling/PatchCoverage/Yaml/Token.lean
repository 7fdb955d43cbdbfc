namespace PatchCoverage.Yaml

/-!
# Tokens of a document

The units that a document's text is made of.  Indentation shows as tokens too:
a block collection has a start and an end, although neither is written.
-/

/-- A unit of a document. -/
inductive Token where
  /-- The directive that names the version of the notation. -/
  | versionDirective (major : Nat)
  /-- The directive that lets a handle stand for the beginning of tags. -/
  | tagDirective (handle beginning : String)
  /-- Any other directive. -/
  | otherDirective
  /-- The mark of a document's start. -/
  | documentStart
  /-- The mark of a document's end. -/
  | documentEnd
  /-- The end of the text. -/
  | streamEnd
  /-- The unwritten start of a list by indentation. -/
  | blockSequenceStart
  /-- The unwritten start of a mapping by indentation. -/
  | blockMappingStart
  /-- The unwritten end of a collection by indentation. -/
  | blockEnd
  /-- An opening bracket. -/
  | flowSequenceStart
  /-- A closing bracket. -/
  | flowSequenceEnd
  /-- An opening brace. -/
  | flowMappingStart
  /-- A closing brace. -/
  | flowMappingEnd
  /-- The dash of a list item. -/
  | blockEntry
  /-- The comma between items. -/
  | flowEntry
  /-- A key is to follow; often unwritten. -/
  | key
  /-- The colon in front of a value. -/
  | value
  /-- A mention of a named value. -/
  | alias (name : String)
  /-- A name for the value that follows. -/
  | anchor (name : String)
  /-- A tag for the value that follows; without a handle it is complete. -/
  | tag (handle : Option String) (suffix : String)
  /-- A text, and whether it was written plainly. -/
  | scalar (text : String) (plain : Bool)
  deriving DecidableEq, Repr

end PatchCoverage.Yaml
