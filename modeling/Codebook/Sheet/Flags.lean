import Codebook.Sheet.Row
import Codebook.Text.Case
import Codebook.Text.Digit

/-!
# Flag columns

A flag column has a label with a number in it, the code of the column. A row belongs to the code when
its text in that column is the word "yes".
-/

namespace Codebook.Flags

/-- The first run of decimal digits of a label, or the empty text. -/
def extractCode (label : Option String) : String :=
  String.ofList
    (((label.getD "").toList.dropWhile fun c => !Text.isDecimal c).takeWhile Text.isDecimal)

/-- Whether a text is the word "yes" in any case. -/
def isAffirmative (text : Option String) : Bool :=
  text.any fun t => Text.lower t == "yes"

/-- Whether a number is at most a whole number. -/
def atMost (start : Number) (n : Nat) : Bool :=
  start.below n || start.toInt? == some (n : Int)

/-- The codes of the flagged columns of a row, from the column with the number `start` on, in column
order; a code that several columns have is kept once, at its first column. -/
def resolveCodes (labels row : Row) (start : Number) : Except ColumnError (List String) := do
  let columns ← Row.numberedColumns [labels, row]
  let flagged := columns.filter fun (name, n) => atMost start n && isAffirmative (row.text? name)
  let codes := flagged.map fun (name, _) => extractCode (labels.text? name)
  return (codes.filter fun code => !code.isEmpty).eraseDups

end Codebook.Flags
