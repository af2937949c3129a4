import Codebook.Failure
import Codebook.Keyed
import Codebook.Text.Blank

/-!
# Rows

The texts of a row of a table by the names of their columns. A column without a text may be in the row
or be left out.
-/

namespace Codebook

/-- The texts of a row, by column name. -/
abbrev Row := Keyed String (Option String)

namespace Row

/-- The text in a column. -/
def text? (row : Row) (column : String) : Option String :=
  (row.get? column).join

/-- The text in a column, if it has at least one character. -/
def filled? (row : Row) (column : String) : Option String :=
  (row.text? column).filter fun text => !text.isEmpty

/-- Whether no column of a row has a text. -/
def isBlank (row : Row) : Bool :=
  row.all fun (_, text) => text.isNone

/-- The column names of rows, each once. -/
def columnNames (rows : List Row) : List String :=
  (rows.flatMap fun row => row.map Prod.fst).eraseDups

/-- The columns of rows with their numbers, in the order of the numbers. -/
def numberedColumns (rows : List Row) : Except ColumnError (List (String × Nat)) := do
  let numbered ← (columnNames rows).mapM fun name => (Column.index name).map fun n => (name, n)
  return numbered.mergeSort fun a b => a.2 ≤ b.2

/-- The column names of rows in the order of the columns. -/
def orderedColumns (rows : List Row) : Except ColumnError (List String) :=
  (numberedColumns rows).map (·.map Prod.fst)

end Row

end Codebook
