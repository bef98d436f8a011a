import DocHarvest.Number.Binary64
import DocHarvest.Report.Wrap

/-!
# Tables

A table is drawn with a heavy frame around its header and a light one around its rows. Every column
is as wide as its widest cell, with a blank on both sides; where the lines would get too wide, the
widest columns are narrowed. A cell may have several lines: its own, and those that it is broken
into because its tabs make it wider than its column.
-/

namespace DocHarvest.Report

/-- The characters that a horizontal line of a frame is drawn with. -/
structure Rule where
  left : Char
  fill : Char
  joint : Char
  right : Char

/-- The line above the header. -/
def topRule : Rule := ⟨'┏', '━', '┳', '┓'⟩

/-- The line between header and rows. -/
def headRule : Rule := ⟨'┡', '━', '╇', '┩'⟩

/-- The line below the rows. -/
def bottomRule : Rule := ⟨'└', '─', '┴', '┘'⟩

/-- The blanks of a column beside its cells. -/
def margins : Nat := 2

/-- A horizontal line over columns of the given widths. -/
def Rule.draw (rule : Rule) (widths : List Nat) : List Char :=
  let columns := widths.map fun width => List.replicate (width + margins) rule.fill
  rule.left :: Text.join [rule.joint] columns ++ [rule.right]

/-- A text with the blanks that it lacks of a width. -/
def addBlanks (width : Nat) (text : List Char) : List Char :=
  text ++ List.replicate (width - Text.width text) ' '

/-- A text filled up to a width; a joiner at its end takes in one blank, which is made up for. -/
def pad (width : Nat) (text : List Char) : List Char :=
  addBlanks width (addBlanks width text)

/-- A line of cells between bars. -/
def drawLine (bar : Char) (widths : List Nat) (cells : List (List Char)) : List Char :=
  let columns := (widths.zip cells).map fun (width, cell) => ' ' :: pad width cell ++ [' ']
  bar :: Text.join [bar] columns ++ [bar]

/-- A row of cells, which may have several lines, between bars. -/
def drawRow (bar : Char) (widths : List Nat) (cells : List (List Char)) : List (List Char) :=
  let lines := (widths.zip cells).map fun (width, cell) => wrap width .ellipsis cell
  let height := (lines.map List.length).foldl max 1
  (List.range height).map fun index =>
    drawLine bar widths (lines.map fun cell => (cell[index]?).getD [])

/-- Whether a character ends a line when the width of a cell is taken. -/
def endsLine (character : Char) : Bool :=
  let code := character.toNat
  (0x0a ≤ code && code < 0x0e) || (0x1c ≤ code && code < 0x1f) || code == 0x85 ||
    code == 0x2028 || code == 0x2029

/-- The width of the widest line of a cell, in which tabs take no cells. -/
def cellWidth (cell : List Char) : Nat :=
  let lines := Text.lines (cell.map fun character => if endsLine character then '\n' else character)
  (lines.map Text.width).foldl max 0

/-- The widths that the columns of a table would have if lines could be of any width. -/
def columnWidths (header : List (List Char)) (rows : List (List (List Char))) : List Nat :=
  rows.foldl
    (fun widths row => (widths.zip row).map fun (width, cell) => max width (cellWidth cell))
    (header.map cellWidth)

/--
Takes an excess off the columns that are as wide as the widest one, in equal shares and no more
than `most` off each of them. There are `count` of these columns.
-/
def share (widest most : Nat) : Nat → Nat → List Nat → List Nat
  | _, _, [] => []
  | excess, count, width :: rest =>
      if width == widest then
        let part := min most (Binary64.roundDiv excess count)
        (width - part) :: share widest most (excess - part) (count - 1) rest
      else width :: share widest most excess count rest

/-- Narrows the widest columns until all fit, in at most the given number of rounds. -/
def narrow (room : Nat) : Nat → List Nat → List Nat
  | 0, widths => widths
  | rounds + 1, widths =>
      let total := widths.foldl (· + ·) 0
      if total ≤ room then widths
      else
        let widest := widths.foldl max 0
        let second := (widths.filter (· != widest)).foldl max 0
        let excess := total - room
        narrow room rounds
          (share widest (min excess (widest - second)) excess (widths.count widest) widths)

/-- The widths of the columns, without margins, in lines that there is room for. -/
def fittedWidths (room : Nat) (widths : List Nat) : List Nat :=
  let room := room - (widths.length + 1)
  let widths := widths.map fun width => min (width + margins) room
  (narrow room widths.length widths).map (· - margins)

/-- The width of the lines of a table whose columns have the given widths, without margins. -/
def tableWidth (widths : List Nat) : Nat :=
  widths.foldl (fun total width => total + width + margins + 1) 1

/-- The lines of a table, in lines that are no wider than there is room for. -/
def drawTable (room : Nat) (header : List (List Char)) (rows : List (List (List Char))) :
    List (List Char) :=
  let widths := fittedWidths room (columnWidths header rows)
  [topRule.draw widths] ++ drawRow '┃' widths header ++ [headRule.draw widths] ++
    rows.flatMap (drawRow '│' widths) ++ [bottomRule.draw widths]

end DocHarvest.Report
