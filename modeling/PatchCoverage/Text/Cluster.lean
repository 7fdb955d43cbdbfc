import PatchCoverage.Text.Width

namespace PatchCoverage

/-!
# Characters that are shown as one

A cluster is a character with all that is shown together with it: the marks
that fill no column, a picture mark, and what a joiner takes in.  A text is cut
between clusters only.
-/

/-- Characters that are shown as one. -/
structure Cluster where
  /-- The characters in order. -/
  characters : List Char
  /-- The number of columns that they fill together. -/
  width : Nat
  deriving DecidableEq, Repr

/-- The clusters of a text that follows `cluster`, whose characters stand last
first and fill `width` columns. The character that a picture mark can widen is
`before?`. -/
def clustersAfter (cluster : List Char) (width : Nat) (before? : Option Char) :
    List Char → List Cluster
  | [] => [⟨cluster.reverse, width⟩]
  | '\u200d' :: joined :: rest =>
    clustersAfter (joined :: '\u200d' :: cluster) width before? rest
  | c :: rest =>
    if c = pictureMark then
      clustersAfter (c :: cluster) (width + pictureGain before?) none rest
    else if columns c = 0 then
      clustersAfter (c :: cluster) width before? rest
    else
      ⟨cluster.reverse, width⟩ :: clustersAfter [c] (columns c) (some c) rest

/-- The clusters of a text. -/
def clusters : List Char → List Cluster
  | [] => []
  | c :: rest => clustersAfter [c] (columns c) (if columns c = 0 then none else some c) rest

end PatchCoverage
