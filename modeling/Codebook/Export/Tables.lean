import Codebook.Export.Bundle
import Codebook.Sheet.Spreadsheet

/-!
# Tables as spreadsheets

A table is stored as a spreadsheet: every sheet has a row of column labels above the records. A sheet
whose title is in use already is written over the sheet that has it.
-/

namespace Codebook.Spreadsheet

/-! ## Titles -/

/-- The title that a sheet gets in a file where the titles `used` are in use. The sheet has a title
of its own before it gets the wanted one. -/
def titleFor (used : List String) (wanted : String) : Except SpreadsheetError String :=
  if used.contains wanted then .ok wanted
  else if wanted.isEmpty then .error .emptyTitle
  else do
    checkTitle wanted
    let first := freeTitle used defaultTitle
    return if wanted == first then wanted else freeTitle (used ++ [first]) wanted

/-! ## Cells -/

/-- The columns of a sheet. -/
def columnsOf (columns : Option (List String)) (records : List Record) : List String :=
  columns.getD (records.flatMap fun r => r.map Prod.fst).eraseDups

/-- A value of a record as a cell of a table: numbers beyond the finite ones are written as words, and
what is no number is nothing. -/
def cellOf : Cell → Cell
  | .number (.real (.infinite negative)) => .text (if negative then "-inf" else "inf")
  | .number (.real .notANumber) => .empty
  | other => other

/-- The cell of a record in a column. -/
def cellAt (r : Record) (column : String) : Cell :=
  cellOf ((r.get? column).getD .empty)

/-- The cells of a sheet: the labels of the columns, then the records. -/
def cells (columns : List String) (records : List Record) : Grid :=
  if columns.isEmpty then []
  else columns.map Cell.text :: records.map fun r => columns.map (cellAt r)

/-- The cells in the order in which they are written: the labels, then column by column. -/
def inWritingOrder (columns : List String) (records : List Record) : List Cell :=
  columns.map Cell.text ++ columns.flatMap fun column => records.map fun r => cellAt r column

/-! ## Sheets -/

/-- The row that is left when a row is written over another one. -/
def overlayRow (row below : List Cell) : List Cell :=
  row ++ below.drop row.length

/-- The sheet that is left when a sheet is written over another one. -/
def overlay : Grid → Grid → Grid
  | row :: rest, below :: others => overlayRow row below :: overlay rest others
  | [], grid => grid
  | grid, [] => grid

/-- The sheets of a file with one more, or with one written over. -/
def put (sheets : List (String × Grid)) (title : String) (grid : Grid) : List (String × Grid) :=
  match sheets with
  | [] => [(title, grid)]
  | (other, below) :: rest =>
    if other == title then (other, overlay grid below) :: rest else (other, below) :: put rest title grid

/-- Adds sheets to those of a file one after the other. -/
def addAll (columns : Option (List String)) (written : List (String × Grid)) :
    List (String × List Record) → Except SpreadsheetError (List (String × Grid))
  | [] => .ok written
  | (wanted, records) :: rest => do
    let title ← titleFor (written.map Prod.fst) wanted
    let shown := columnsOf columns records
    checkTexts (inWritingOrder shown records)
    addAll columns (put written title (cells shown records)) rest

/-- A sheet all of whose rows are as wide as the widest one. -/
def squared (grid : Grid) : Grid :=
  grid.map fun row => row ++ List.replicate (grid.width - row.length) .empty

/-- The spreadsheet of a table. -/
def ofTable (columns : Option (List String)) (sheets : List (String × List Record)) :
    Except SpreadsheetError Spreadsheet := do
  let written ← addAll columns [] sheets
  storeAll (written.map fun (title, grid) => (title, squared grid))

end Codebook.Spreadsheet
