import Codebook.Catalog.Basic
import Codebook.Report
import Codebook.Sheet.Flags

/-!
# Building catalogs

A catalog is built from a table: column `A` holds the label of an entry, a column of choice its code,
and the flag columns from a given one on its categories. A row without a label, a code or a category
is passed over. Of several rows with one code the first becomes an entry and each other one an issue.
-/

namespace Codebook.Catalog

/-- The column of the labels. -/
def labelColumn : String := "A"

/-- The place of a list: the name of the list and of the workbook, for issues. -/
structure Place where
  workbook : String
  list : String
deriving Repr, DecidableEq

/-- How the rows of a table become entries. -/
structure Shape where
  codeColumn : Number
  categoryStart : Number
  isImage : Bool
deriving Repr, DecidableEq

/-- The label of an entry; those of imagery lists are set in bold. -/
def entryLabel (isImage : Bool) (label : String) : String :=
  if isImage then "<b>" ++ label ++ "</b>" else label

/-- The entry that a row gives, repeated or not, if it has a label, a code and a category. -/
def entryOf (labels : Row) (codeColumn : String) (shape : Shape) (row : Row) :
    Except Failure (Option Entry) := do
  match row.filled? labelColumn, row.filled? codeColumn with
  | some label, some code =>
    let categories ← (Flags.resolveCodes labels row shape.categoryStart).mapError .column
    if categories.isEmpty then return none
    return some ⟨Text.trim code, entryLabel shape.isImage label, categories, shape.isImage⟩
  | _, _ => return none

/-- Reports an entry whose code an earlier entry has; `label` is the label in the table. -/
def reportRepeated (place : Place) (code label : String) : Report Unit := do
  Report.event .warning (place.list ++ ": duplicate code _" ++ code ++ " ('" ++ label ++ "') skipped")
  Report.issue
    ⟨place.workbook, place.list, -1, "DUPLICATE_CODE",
      "duplicate code _" ++ code ++ " for '" ++ label ++ "'"⟩

/-- The entries of rows; `seen` holds the codes of the entries before them. -/
def entriesFrom (place : Place) (labels : Row) (codeColumn : String) (shape : Shape)
    (seen : List String) : List Row → Report (List Entry)
  | [] => return []
  | row :: rest => do
    match ← Report.ofExcept (entryOf labels codeColumn shape row) with
    | none => entriesFrom place labels codeColumn shape seen rest
    | some entry =>
      if seen.contains entry.code then
        reportRepeated place entry.code ((row.text? labelColumn).getD "")
        entriesFrom place labels codeColumn shape seen rest
      else
        let entries ← entriesFrom place labels codeColumn shape (entry.code :: seen) rest
        return entry :: entries

/-- The catalog of a table; one without entries is a failure. -/
def build (place : Place) (shape : Shape) : List Row → Report Catalog
  | [] => Report.fail (.emptyList place.list)
  | labels :: rows => do
    let codeColumn ← Report.ofExcept ((Column.nameOf shape.codeColumn).mapError .column)
    let entries ← entriesFrom place labels codeColumn shape [] rows
    if entries.isEmpty then Report.fail (.emptyList place.list)
    else
      Report.event .debug (place.list ++ ": " ++ toString entries.length ++ " entries")
      return ⟨place.list, entries⟩

end Codebook.Catalog
