import Codebook.ImportRow.Basic

/-!
# Distinct import rows

Of rows with one object name the first is kept, and the rows that are kept stand in the order of their
positions.
-/

namespace Codebook.ImportRow

/-- The first row of each object name; `seen` holds the names that came before. -/
def firstsFrom (seen : List String) : List ImportRow → List ImportRow
  | [] => []
  | row :: rest =>
    if seen.contains row.objectName then firstsFrom seen rest
    else row :: firstsFrom (row.objectName :: seen) rest

/-- The first row of each object name. -/
def firsts (rows : List ImportRow) : List ImportRow :=
  firstsFrom [] rows

/-- The first row of each object name, in the order of the positions. -/
def distinct (rows : List ImportRow) : List ImportRow :=
  (firsts rows).mergeSort fun a b => a.position ≤ b.position

end Codebook.ImportRow
