import PatchCoverage.Yaml.Construction

namespace PatchCoverage.Yaml

/-!
# Reading a document

The value of a text: its characters are checked, its only document is read
into a tree, and the tree is made a value.  A text without a document has the
missing value.

There is no bound on how deeply values may be nested.  The bound of the reader is a
matter of the stack that is left to it, so it is one of the system's limits
(`Limits.isTooDeep`), and a document beyond it is not given to `Yaml.read`.
-/

/-- Whether a document may hold a character. -/
def isDocumentCharacter (c : Char) : Bool :=
  let code := c.toNat
  code == 9 || code == 10 || code == 13 || (0x20 ≤ code && code ≤ 0x7e) || code == 0x85 ||
    (0xa0 ≤ code && code ≤ 0xd7ff) || (0xe000 ≤ code && code ≤ 0xfffd) || 0x10000 ≤ code

/-- The value of a text. -/
def read (text : String) : Except Fault Value := do
  let characters := text.toList
  if !characters.all isDocumentCharacter then throw .malformed
  match ← Node.ofText? characters with
  | none => pure .null
  | some node => (node.toValue 0).mapError (·.2)

end PatchCoverage.Yaml
