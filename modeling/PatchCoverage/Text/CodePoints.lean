namespace PatchCoverage

/-!
# Sets of characters given by tables

Properties of characters beyond ASCII are data.  A table is a text of rows:
rows are separated by blanks, the numbers of a row by commas, and every number
is written in small hexadecimal digits, with a minus sign where needed.

`CodePointRanges` holds the rows `first,last` (or `only`) of a property in
ascending order and answers membership by halving.
-/

/-- Appends a hexadecimal digit to a number; other characters change nothing. -/
def pushHexDigit (value : Nat) (c : Char) : Nat :=
  if c.isDigit then value * 16 + (c.toNat - 48)
  else if 'a' ≤ c ∧ c ≤ 'f' then value * 16 + (c.toNat - 87)
  else value

/-- Reads rows of numbers: `row` holds the numbers before the current one,
last first, and `value` the digits of the current one. -/
def readHexRows (row : List Int) (negative : Bool) (value : Nat) : List Char → List (List Int)
  | [] => [(number :: row).reverse]
  | ' ' :: rest => (number :: row).reverse :: readHexRows [] false 0 rest
  | ',' :: rest => readHexRows (number :: row) false 0 rest
  | '-' :: rest => readHexRows row true value rest
  | c :: rest => readHexRows row negative (pushHexDigit value c) rest
where
  /-- The number read so far. -/
  number : Int := if negative then -(value : Int) else value

/-- The rows of a table. -/
def hexRows (table : String) : List (List Int) :=
  readHexRows [] false 0 table.toList

/-- A set of code points as ranges in ascending order. -/
structure CodePointRanges where
  /-- The first and last code point of each range. -/
  ranges : Array (Nat × Nat)

namespace CodePointRanges

/-- Reads the ranges of a table. -/
def ofTable (table : String) : CodePointRanges :=
  ⟨((hexRows table).filterMap fun
    | [only] => some (only.toNat, only.toNat)
    | [first, last] => some (first.toNat, last.toNat)
    | _ => none).toArray⟩

/-- Looks for a range that holds `code` among those from `low` to below
`high`. -/
def holdsBetween (ranges : Array (Nat × Nat)) (code low high : Nat) : Bool :=
  if _ : low < high then
    let middle := (low + high) / 2
    match ranges[middle]? with
    | none => false
    | some (first, last) =>
      if code < first then holdsBetween ranges code low middle
      else if last < code then holdsBetween ranges code (middle + 1) high
      else true
  else
    false
termination_by high - low
decreasing_by all_goals omega

/-- Whether a code point is in the set. -/
def contains (set : CodePointRanges) (code : Nat) : Bool :=
  holdsBetween set.ranges code 0 set.ranges.size

end CodePointRanges

end PatchCoverage
