import Codebook.Document.Json
import Codebook.Sheet.Spreadsheet

/-!
# Spreadsheets as documents

A spreadsheet is exchanged as a list of pairs of a sheet name and the rows of the sheet, each a list of
cells: null, texts, numbers and truth values stand for themselves, and a mapping for the mark of a
calculation that failed.
-/

namespace Codebook

namespace Cell

/-- The cell that a document stands for. -/
def ofDocument : Document → Cell
  | .scalar (.text value) => .text value
  | .scalar (.number value) => .number value
  | .scalar (.flag value) => .flag value
  | .mapping _ => .fault
  | _ => .empty

/-- The document that stands for a cell. -/
def toDocument : Cell → Document
  | .empty => .null
  | .text value => .ofText value
  | .number value => .scalar (.number value)
  | .flag value => .ofFlag value
  | .fault => .mapping []

end Cell

namespace Spreadsheet

/-- The rows that a document stands for; what is no list has none. -/
def gridOf : Document → Grid
  | .list rows =>
    rows.map fun row =>
      match row with
      | .list cells => cells.map Cell.ofDocument
      | _ => []
  | _ => []

/-- The sheet that a document stands for. -/
def sheetOf? : Document → Option (String × Grid)
  | .list [.scalar (.text name), rows] => some (name, gridOf rows)
  | _ => none

/-- The sheets that a document stands for, if it is a list of sheets. -/
def sheetsOf? : Document → Option (List (String × Grid))
  | .list sheets => sheets.mapM sheetOf?
  | _ => none

/-- The spreadsheet that a document stands for, if it is a list of sheets that can be stored. -/
def ofDocument? (d : Document) : Option Spreadsheet :=
  (sheetsOf? d).bind fun sheets => (ofSheets sheets).toOption

/-- The document that stands for a spreadsheet. -/
def toDocument (sheets : Spreadsheet) : Document :=
  .list (sheets.map fun (title, grid) =>
    .list [.ofText title, .list (grid.map fun row => .list (row.map Cell.toDocument))])

end Spreadsheet

end Codebook
