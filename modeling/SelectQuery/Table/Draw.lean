import SelectQuery.Table
import SelectQuery.Text.Lines
import SelectQuery.Text.Width

/-!
# Drawing tables

A table is drawn in a frame:

    +---------+----+
    | columns | id |
    +---------+----+
    | table   | t  |
    +---------+----+

A cell is as many lines as its text, a record is as high as its highest cell, and a column is as
wide on a terminal as its widest line, with a space on either side. How wide a character is, the
function `charWidth` says.
-/

namespace SelectQuery.Table

open Text

variable (charWidth : Char → Nat)

/-! ## In columns of given widths -/

/-- The lines of a cell. -/
def cellLines (cell : String) : List (List Char) :=
  pieces cell.toList

/-- How many lines a record takes. -/
def recordHeight (r : Record) : Nat :=
  (r.map fun cell => (cellLines cell).length).foldr max 1

/-- The line between records. -/
def separator (widths : List Nat) : List Char :=
  '+' :: widths.flatMap fun w => List.replicate (w + 2) '-' ++ ['+']

/-- One line of a record, from one line of each cell. -/
def recordLine (widths : List Nat) (parts : List (List Char)) : List Char :=
  '|' ::
    (List.zipWith (fun w part => ' ' :: padTo charWidth w part ++ [' ', '|']) widths parts).flatten

/-- The lines of a record. A cell has nothing on the lines after its own. -/
def recordLines (widths : List Nat) (r : Record) : List (List Char) :=
  let cells := r.map cellLines
  (List.range (recordHeight r)).map fun i =>
    recordLine charWidth widths (cells.map fun lines => lines.getD i [])

/-- The lines of a table: a separator comes first and one follows each record. -/
def lines (widths : List Nat) (t : Table) : List (List Char) :=
  separator widths ::
    t.records.flatMap fun r => recordLines charWidth widths r ++ [separator widths]

/-- The table as text, without a line feed at the end. -/
def drawIn (widths : List Nat) (t : Table) : String :=
  "\n".intercalate ((t.lines charWidth widths).map String.ofList)

/-! ## In columns as wide as they have to be -/

/-- How many columns a table has. -/
def columnCount (t : Table) : Nat :=
  (t.records.head?.getD []).length

/-- The lines of all cells in the column of that number. -/
def columnLines (t : Table) (column : Nat) : List (List Char) :=
  t.records.flatMap fun r => r[column]?.toList.flatMap cellLines

/-- The width of the widest line in a column. -/
def columnWidth (t : Table) (column : Nat) : Nat :=
  ((t.columnLines column).map (width charWidth)).max?.getD 0

/-- The widths of the columns. -/
def columnWidths (t : Table) : List Nat :=
  (List.range t.columnCount).map (t.columnWidth charWidth)

/-- The table as text, each column as wide as its widest line. -/
def draw (t : Table) : String :=
  t.drawIn charWidth (t.columnWidths charWidth)

end SelectQuery.Table
