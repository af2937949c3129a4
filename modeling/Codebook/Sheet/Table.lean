import Codebook.Sheet.Cell
import Codebook.Sheet.Row

/-!
# Tables

A table is a list of rows of texts, of which the first holds the labels of the columns. It is taken
from a sheet of a workbook, whose first rows may be a title, and single texts are found by a reference
such as `D5`.
-/

namespace Codebook

/-- The sheets of a workbook, by name. -/
abbrev Workbook := Keyed String Grid

namespace Table

/-- A row of a sheet as a row of a table that is `width` columns wide. -/
def rowOf (width : Nat) (cells : List Cell) : Row :=
  (List.range width).map fun place =>
    (Column.name (place + 1), (cells[place]?).bind Cell.tableText?)

/-- The rows of a sheet, all as wide as the longest one. -/
def rowsOf (grid : Grid) : List Row :=
  grid.map (rowOf grid.width)

/-- The table whose labels stand in the row with the number `offset`, counted from 1: that row and the
rows after it that are not blank. -/
def below (rows : List Row) (offset : Nat) : List Row :=
  match rows.drop (offset - 1) with
  | [] => []
  | labels :: data => labels :: data.filter fun row => !row.isBlank

/-- The table of a sheet. Without an offset it holds all rows, blank ones too. A sheet with more
columns than have a name makes no table. -/
def load (workbook : Workbook) (sheet : String) (offset : Number) : Except Failure (List Row) := do
  let some grid := workbook.get? sheet | .error (.missingSheet sheet)
  if Column.greatest < grid.width then .error (.column (.badIndex (.whole (Column.greatest + 1))))
  let rows := rowsOf grid
  if offset.below 0 || offset.toInt? == some 0 then return rows
  if !offset.below (rows.length + 1) then return []
  match offset with
  | .whole n => return below rows n.toNat
  | .real _ => .error .fractionalOffset

/-! ## References -/

/-- Splits a reference into its letters and its digits. -/
def splitReference? (reference : String) : Option (String × String) :=
  let chars := Text.trimChars reference.toList
  let letters := chars.takeWhile Char.isAlpha
  let digits := chars.dropWhile Char.isAlpha
  if letters.isEmpty || digits.isEmpty || !digits.all Char.isDigit then none
  else some (String.ofList letters, String.ofList digits)

/-- The text at a reference; rows are counted from 1. -/
def textAt (rows : List Row) (reference : String) : Except Failure (Option String) := do
  let some (letters, digits) := splitReference? reference | .error (.cellReference reference)
  let n ← (Text.readNumeral digits).mapError .numeral
  if n = 0 then return none
  return (rows[n - 1]?).bind fun row => row.text? (Text.upper letters)

end Table

end Codebook
