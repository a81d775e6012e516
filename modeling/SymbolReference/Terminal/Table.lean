import SymbolReference.Terminal.Print

namespace SymbolReference.Terminal

/-- A column: its header and where its cells stand. -/
structure Column where
  header : List Char
  alignment : Alignment := .left

/-- A table: its title, its columns and the texts of its rows. -/
structure Table where
  title : List Char
  columns : List Column
  rows : List (List (List Char))

/-- The spaces on both sides of a cell. -/
def padding : Nat := 2

/-- The width of the longest line of a text. -/
def naturalWidth (s : List Char) : Nat :=
  ((Text.lines s).map cells).foldl max 0

/-- The width that a column with the given cells takes when at most a number of cells is
available. -/
def columnWidth (available : Nat) (texts : List (List Char)) : Nat :=
  let widest := (texts.map naturalWidth).foldl max 0
  min available (max 1 (widest + padding))

/-- A quotient rounded to the nearest integer, halves to the even one. -/
def roundedQuotient (a b : Nat) : Nat :=
  let q := a / b
  let r := a % b
  if 2 * r < b then q else if b < 2 * r then q + 1 else q + q % 2

/-- Take an amount from the marked widths as evenly as possible, and from none more than a
limit. `marked` is the number of marked widths that are left. -/
def reduce (limit : Nat) : Nat → Nat → List (Nat × Bool) → List Nat
  | _, _, [] => []
  | amount, marked, (width, isMarked) :: others =>
    if isMarked then
      let taken := min limit (roundedQuotient amount marked)
      (width - taken) :: reduce limit (amount - taken) (marked - 1) others
    else width :: reduce limit amount marked others

/-- One round of shrinking: the widest columns shrink towards the next widest one. -/
def shrinkOnce (excess : Nat) (widths : List Nat) : List Nat :=
  let widest := widths.foldl max 0
  let next := (widths.filter (· ≠ widest)).foldl max 0
  let isWidest := widths.map fun width => (width, decide (width = widest))
  reduce (min excess (widest - next)) excess (widths.count widest) isWidest

/-- The cells that columns of the given widths take together. -/
def total (widths : List Nat) : Nat := widths.foldl (· + ·) 0

/-- Shrink columns until they fit, in at most `fuel` rounds. -/
def shrink (available : Nat) : Nat → List Nat → List Nat
  | 0, widths => widths
  | fuel + 1, widths =>
    if total widths ≤ available then widths
    else shrink available fuel (shrinkOnce (total widths - available) widths)

namespace Table

/-- The texts of every column, its header first. -/
def columnTexts (t : Table) : List (List (List Char)) :=
  t.columns.zipIdx.map fun (column, index) =>
    column.header :: t.rows.map fun row => row.getD index []

/-- The cells that the frame takes: two edges and a line between any two columns. -/
def frameWidth (t : Table) : Nat := t.columns.length + 1

def widths (t : Table) (terminal : Nat) : List Nat :=
  let available := terminal - t.frameWidth
  let natural := t.columnTexts.map (columnWidth available)
  shrink available (total natural) natural

/-- The lines of one cell at the width of its column, each in parts. A column that has room only
for the spaces shows nothing. -/
def cellLines (width : Nat) (alignment : Alignment) (s : List Char) :
    Except CutError (List (List (List Char))) :=
  let inner := width - padding
  if inner = 0 then .ok []
  else do
    let lines ← wrap inner .ellipsis alignment s
    lines.mapM fun line => do
      let content ← fitParts inner [fill inner line]
      fitParts width ([' '] :: content ++ [[' ']])

/-- The lines of one row between vertical lines, each in parts. Header cells stand at the bottom of
their row, the others at its top. -/
def rowLines (bar : Char) (isHeader : Bool) (widths : List Nat) (columns : List Column)
    (row : List (List Char)) : Except CutError (List (List (List Char))) := do
  let cells ← (widths.zip (columns.zip row)).mapM fun (width, column, text) => do
    return (width, ← cellLines width column.alignment text)
  let height := (cells.map fun cell => cell.2.length).foldl max 1
  return (List.range height).map fun n =>
    [bar] :: cells.flatMap fun (width, lines) =>
      let blank := [List.replicate width ' ']
      let missing := if isHeader then height - lines.length else 0
      let parts := if n < missing then blank else lines.getD (n - missing) blank
      parts ++ [[bar]]

/-- A horizontal line of the frame. -/
def rule (left line cross right : Char) (widths : List Nat) : List Char :=
  left :: Text.joined [cross] (widths.map fun width => List.replicate width line) ++ [right]

def lines (t : Table) (terminal : Nat) : Except CutError (List (List (List Char))) := do
  let widths := t.widths terminal
  let heading ← wrap (total widths + t.frameWidth) .fold .center t.title
  let header ← rowLines '┃' true widths t.columns (t.columns.map Column.header)
  let body ← t.rows.mapM (rowLines '│' false widths t.columns)
  return heading.map ([·]) ++ [rule '┏' '━' '┳' '┓' widths] :: header ++
    [rule '┡' '━' '╇' '┩' widths] :: body.flatten ++ [[rule '└' '─' '┴' '┘' widths]]

/-- A table as it is printed on a terminal. A frame that is wider than the terminal is cut, and
without any width nothing is printed. -/
def print (t : Table) (terminal : Nat) : Printout :=
  if terminal = 0 then {} else .ofFilled terminal (t.lines terminal)

end Table

end SymbolReference.Terminal
