namespace PatchCoverage.CommandLine

/-!
# Suggesting names

A name that does not exist may be a misspelling of one that does.  Two texts
are compared by their longest common run of characters, and by what the parts
before and after it have in common in the same way.
-/

/-- The number of first characters that two texts share. -/
def commonStart : List Char → List Char → Nat
  | a :: as, b :: bs => if a = b then commonStart as bs + 1 else 0
  | _, _ => 0

/-- A run of characters that occurs in two texts. -/
structure CommonRun where
  /-- Where it begins in the first text. -/
  first : Nat
  /-- Where it begins in the second text. -/
  second : Nat
  /-- Its length. -/
  length : Nat
  deriving DecidableEq, Repr

/-- The longest common run of two texts; of several, the one that begins first
in the first text, and then in the second. -/
def longestRun (left right : List Char) : CommonRun :=
  (List.range left.length).foldl
    (fun best i => (List.range right.length).foldl
      (fun best j =>
        let length := commonStart (left.drop i) (right.drop j)
        if best.length < length then ⟨i, j, length⟩ else best)
      best)
    ⟨0, 0, 0⟩

/-- The number of characters that two texts have in common. -/
def commonCount : Nat → List Char → List Char → Nat
  | 0, _, _ => 0
  | fuel + 1, left, right =>
    let run := longestRun left right
    if run.length = 0 then 0
    else
      run.length + commonCount fuel (left.take run.first) (right.take run.second) +
        commonCount fuel (left.drop (run.first + run.length))
          (right.drop (run.second + run.length))

/-- How much a candidate is like a name: what they have in common, of all. -/
structure Likeness where
  /-- The number of common characters. -/
  common : Nat
  /-- The number of all characters. -/
  total : Nat
  /-- The candidate. -/
  candidate : String

/-- How much a candidate is like a name. -/
def likeness (name candidate : String) : Likeness :=
  let left := candidate.toList
  let right := name.toList
  ⟨commonCount (left.length + 1) left right, left.length + right.length, candidate⟩

/-- Whether three tenths of all characters are common, so six tenths of a
text. -/
def Likeness.isClose (likeness : Likeness) : Bool :=
  3 * likeness.total ≤ 10 * likeness.common

/-- Whether one candidate is at least as close as another; of equally close
ones, whether it comes later in the order of texts. -/
def Likeness.atLeast (one other : Likeness) : Bool :=
  let left := one.common * other.total
  let right := other.common * one.total
  right < left || (left = right && other.candidate ≤ one.candidate)

/-- The greatest number of suggestions. -/
def suggestionLimit : Nat := 3

/-- The candidates that are most like a name, in the order of texts. -/
def suggestions (name : String) (candidates : List String) : List String :=
  let close := ((candidates.map (likeness name)).filter Likeness.isClose).mergeSort Likeness.atLeast
  ((close.take suggestionLimit).map Likeness.candidate).mergeSort fun a b => a ≤ b

end PatchCoverage.CommandLine
