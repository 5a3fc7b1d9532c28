import SlopLint.Console.Wrap
import SlopLint.Number.Rounding

/-!
# Tables

A table has a title above it, a frame, and a blank on both sides of every cell. Its columns are as
wide as their widest cell. On a console that is too narrow the widest columns shrink first, to the
width of the next widest, and so on; their cells are then wrapped.
-/

namespace SlopLint.Console

open Text Number

/-- Where a line stands in the room it has. -/
inductive Alignment where
  | left
  | right
  | center
deriving DecidableEq, Repr

/-- A line filled up with spaces to the given width. -/
def Alignment.place (alignment : Alignment) (width : Nat) (line : List Char) : List Char :=
  match alignment with
  | left => line ++ spaces (width - cellLength line)
  | right =>
    let line := stripRight line
    spaces (width - cellLength line) ++ line
  | center =>
    let line := stripRight line
    let room := width - cellLength line
    spaces (room / 2) ++ line ++ spaces (room - room / 2)
where
  /-- A number of spaces. -/
  spaces (count : Nat) : List Char := List.replicate count ' '

structure Column where
  heading : String := ""
  alignment : Alignment := .left
deriving DecidableEq

/-- A table. The headings are shown only if asked for. -/
structure Table where
  title : String
  columns : List Column
  hasHeader : Bool
  rows : List (List String)
deriving DecidableEq

namespace Table

/-- What frames the rows: the lines above and below them, and the bars between their cells. -/
structure Frame where
  left : Char
  fill : Char
  cross : Char
  right : Char

/-- A line of a frame over columns of the given widths. -/
def Frame.line (frame : Frame) (widths : List Nat) : List Char :=
  frame.left :: [frame.cross].intercalate (widths.map fun width => List.replicate width frame.fill)
    ++ [frame.right]

def topFrame (table : Table) : Frame :=
  if table.hasHeader then ⟨'┏', '━', '┳', '┓'⟩ else ⟨'┌', '─', '┬', '┐'⟩

def headFrame : Frame := ⟨'┡', '━', '╇', '┩'⟩

def bottomFrame : Frame := ⟨'└', '─', '┴', '┘'⟩

/-- The blanks beside the text of a cell, on both sides together. -/
def padding : Nat := 2

/-- The cells that a frame takes on every line. -/
def frameWidth (table : Table) : Nat :=
  table.columns.length + 1

/-- The widths of columns that show their cells in full. -/
def naturalWidths (table : Table) : List Nat :=
  let headings := if table.hasHeader then [table.columns.map Column.heading] else []
  (headings ++ table.rows).foldl
    (fun widths row => widths.zipWith max (row.map fun cell => cellLength cell.toList + padding))
    (table.columns.map fun _ => 0)

/-- The cells that columns take together, without the frame. -/
def total (widths : List Nat) : Nat :=
  widths.foldr (· + ·) 0

/-- Takes `excess` cells in even shares from the columns that are `widest`, of which `left` are
still to come, but at most `most` cells from each. -/
def shrinkWidest (widest most : Nat) (excess left : Nat) : List Nat → List Nat
  | [] => []
  | width :: rest =>
    if width = widest then
      let share := min most (roundHalfEven excess left)
      (width - share) :: shrinkWidest widest most (excess - share) (left - 1) rest
    else width :: shrinkWidest widest most excess left rest

/-- Shrinks the widest columns until all of them fit; `fuel` bounds the number of rounds. -/
def shrink (limit : Nat) : Nat → List Nat → List Nat
  | 0, widths => widths
  | fuel + 1, widths =>
    let excess := total widths - limit
    if excess = 0 then widths
    else
      let widest := widths.foldl max 0
      let next := (widths.filter (· != widest)).foldl max 0
      shrink limit fuel
        (shrinkWidest widest (min excess (widest - next)) excess (widths.count widest) widths)

/-- The widths of the columns on a console of the given width. -/
def widths (table : Table) (console : Nat) : List Nat :=
  let limit := console - table.frameWidth
  let natural := table.naturalWidths.map fun width => max 1 (min width limit)
  shrink limit (total natural) natural

/-- The lines of a cell; a column without room for text shows none of it. -/
def cellLines (width : Nat) (alignment : Alignment) (text : String) : List (List Char) :=
  if width ≤ padding then []
  else (wrap .ellipsis (width - padding) text.toList).map fun line =>
    ' ' :: alignment.place (width - padding) line ++ [' ']

/-- The lines of a row, with bars around its cells. -/
def rowLines (bar : Char) (widths : List Nat) (alignments : List Alignment) (row : List String) :
    List (List Char) :=
  let cells := (widths.zip (alignments.zip row)).map fun (width, alignment, text) =>
    (width, cellLines width alignment text)
  let height := cells.foldl (fun height (_, lines) => max height lines.length) 1
  (List.range height).map fun i =>
    let shown := cells.map fun (width, lines) => lines[i]?.getD (List.replicate width ' ')
    bar :: [bar].intercalate shown ++ [bar]

/-- The lines of a table on a console of the given width. -/
def lines (table : Table) (console : Nat) : List (List Char) :=
  let widths := table.widths console
  let alignments := table.columns.map Column.alignment
  let width := total widths + table.frameWidth
  let title := (wrap .fold width table.title.toList).map (Alignment.center.place width)
  let header :=
    if table.hasHeader then
      rowLines '┃' widths alignments (table.columns.map Column.heading) ++ [headFrame.line widths]
    else []
  let body := table.rows.flatMap (rowLines '│' widths alignments)
  (title ++ [table.topFrame.line widths] ++ header ++ body ++ [bottomFrame.line widths]).map
    (Wrap.crop console)

end Table

end SlopLint.Console
