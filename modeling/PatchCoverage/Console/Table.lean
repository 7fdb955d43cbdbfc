import PatchCoverage.Console.Markup
import PatchCoverage.Console.Wrap
import PatchCoverage.Number.Rounding

namespace PatchCoverage.Console

/-!
# Tables

A table has a title, a heading for every column and rows of cells.  A column is
as wide as its widest cell with a blank on either side.  When that is too wide
for the terminal the widest columns are made narrower until they are no wider
than the next, and so on; cells that do not fit are cut short.
-/

/-- A column of a table. -/
structure Column where
  /-- What stands above the column. -/
  heading : String
  /-- Where the cells of the column stand. -/
  alignment : Alignment

/-- A table; headings and cells are messages with tags. -/
structure Table where
  /-- What stands above the table. -/
  title : String
  /-- The columns. -/
  columns : List Column
  /-- The cells of every row. -/
  rows : List (List String)

/-- The number of blanks on both sides of a cell. -/
def cellPadding : Nat := 2

/-- The width of the widest line of a text. -/
def widestLine (text : List Char) : Nat :=
  (splitLinesFrom [] text).foldl (fun widest line => max widest (textWidth line)) 0

/-- The width of a column with the given cells when there are `available`
columns. -/
def measureColumn (available : Nat) (cells : List (List Char)) : Nat :=
  let measureCell (cell : List Char) :=
    if available ≤ cellPadding then available
    else min (widestLine cell + cellPadding) available
  cells.foldl (fun widest cell => max widest (measureCell cell)) 0

/-- Takes `total` away from values in equal shares; every value comes with
whether it takes part and what it may lose at most. `sharers` is the number of
those that still take part. -/
def reduceEvenly (total sharers : Nat) : List (Nat × Bool × Nat) → List Nat
  | [] => []
  | (value, shares, most) :: rest =>
    if shares && 0 < sharers then
      let taken := min most (roundHalfEven total sharers)
      (value - taken) :: reduceEvenly (total - taken) (sharers - 1) rest
    else
      value :: reduceEvenly total sharers rest

/-- Takes `total` away from the values that satisfy a test, in equal shares of
at most `most`. -/
def reduceWhere (test : Nat → Bool) (most : Nat → Nat) (total : Nat) (values : List Nat) :
    List Nat :=
  let shares := values.map fun value => (value, test value && 0 < most value, most value)
  reduceEvenly total (shares.countP fun (_, takesPart, _) => takesPart) shares

/-- The width of several columns side by side. -/
def totalWidth (widths : List Nat) : Nat :=
  widths.foldr (· + ·) 0

/-- Makes the widest columns narrower until all fit into `available`. -/
def collapseWidths (available : Nat) : Nat → List Nat → List Nat
  | 0, widths => widths
  | fuel + 1, widths =>
    if totalWidth widths ≤ available then widths
    else
      let excess := totalWidth widths - available
      let widest := widths.foldl max 0
      let second := (widths.filter (· != widest)).foldl max 0
      let most := min excess (widest - second)
      collapseWidths available fuel (reduceWhere (· == widest) (fun _ => most) excess widths)

/-- The widths of columns with the given cells when there are `available`
columns. -/
def columnWidths (available : Nat) (columns : List (List (List Char))) : List Nat :=
  let widths := columns.map fun cells => max 1 (measureColumn available cells)
  if totalWidth widths ≤ available then widths
  else
    let widths := collapseWidths available (totalWidth widths) widths
    let widths := reduceWhere (fun _ => true) id (totalWidth widths - available) widths
    List.zipWith measureColumn widths columns

/-- A line that is put together from parts.  Its width is that of the parts, each
measured by itself. -/
abbrev PartedLine := List (List Char)

/-- The width of a line that is put together from parts. -/
def PartedLine.width (line : PartedLine) : Nat :=
  totalWidth (line.map textWidth)

/-- The parts that fit into `room` columns, the last of them cut or filled up. -/
def takeParts (room : Nat) : PartedLine → List Char
  | [] => []
  | part :: rest =>
    if textWidth part < room then part ++ takeParts (room - textWidth part) rest
    else setWidth room part

/-- The characters of a line, cut to at most `width` columns. -/
def PartedLine.crop (line : PartedLine) (width : Nat) : List Char :=
  if line.width ≤ width then line.flatten else takeParts width line

/-- The lines of a cell that is `width` columns wide. -/
def cellLines (alignment : Alignment) (width : Nat) (text : List Char) : List PartedLine :=
  if width ≤ cellPadding then []
  else
    let room := width - cellPadding
    (wrap alignment .ellipsis room text).map fun line =>
      [[' '], line, List.replicate (room - textWidth line) ' ', [' ']]

/-- The characters of a line across the table: at its ends, between columns
and in columns. -/
structure Rule where
  /-- The left end. -/
  left : Char
  /-- Between two columns. -/
  between : Char
  /-- The right end. -/
  right : Char
  /-- In a column. -/
  fill : Char

/-- The line above the headings. -/
def topRule : Rule := ⟨'┏', '┳', '┓', '━'⟩

/-- The line below the headings. -/
def headRule : Rule := ⟨'┡', '╇', '┩', '━'⟩

/-- The line below the last row. -/
def bottomRule : Rule := ⟨'└', '┴', '┘', '─'⟩

/-- A line across the table. -/
def Rule.line (rule : Rule) (widths : List Nat) : PartedLine :=
  [rule.left ::
    List.intercalate [rule.between] (widths.map fun width => List.replicate width rule.fill) ++
    [rule.right]]

/-- The lines of a row of the table, whose cells are separated by `bar`. -/
def rowLines (bar : Char) (widths : List Nat) (cells : List (List PartedLine)) :
    List PartedLine :=
  let height := cells.foldl (fun height cell => max height cell.length) 1
  (List.range height).map fun index =>
    let parts := List.zipWith
      (fun width (cell : List PartedLine) => cell[index]?.getD [List.replicate width ' '])
      widths cells
    [bar] :: List.intercalate [[bar]] parts ++ [[bar]]

/-- The number of columns that lines between and around `count` columns of the
table take. -/
def ruleColumns (count : Nat) : Nat := count + 1

/-- The lines of a table in a terminal. -/
def Table.lines (table : Table) (terminal : Terminal) : Except MarkupError (List (List Char)) := do
  let plain := Markup.plain terminal.emoji
  let title ← plain table.title
  let headings ← table.columns.mapM fun column => plain column.heading
  let rows ← table.rows.mapM fun row => row.mapM plain
  let borders := ruleColumns table.columns.length
  let columns := headings.mapIdx fun index heading =>
    heading :: rows.map fun row => row[index]?.getD []
  let widths := columnWidths (terminal.columns - borders) columns
  let alignments := table.columns.map Column.alignment
  let cells (row : List (List Char)) :=
    List.zipWith (fun (alignment, width) text => cellLines alignment width text)
      (alignments.zip widths) row
  pure <|
    ((wrap .centre .fold (totalWidth widths + borders) title).map (fun line => [line]) ++
      [topRule.line widths] ++ rowLines '┃' widths (cells headings) ++ [headRule.line widths] ++
      rows.flatMap (fun row => rowLines '│' widths (cells row)) ++
      [bottomRule.line widths]).map fun line => PartedLine.crop line terminal.columns

end PatchCoverage.Console
