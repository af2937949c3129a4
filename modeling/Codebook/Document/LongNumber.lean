import Codebook.Document.Basic
import Codebook.Text.Numeral

/-!
# Long numbers

A whole number with more digits than a numeral may have cannot be written into a message. Such numbers come
about where a file gives them in another base than ten.
-/

namespace Codebook

/-- The least whole number that is too long to be written. -/
def leastLongNumber : Nat := Nat.pow 10 Text.digitLimit

/-- The message about a number that is too long to be written. -/
def longNumberMessage : String :=
  "Exceeds the limit (" ++ toString Text.digitLimit ++ " digits) for integer string conversion; "
    ++ "use sys.set_int_max_str_digits() to increase the limit"

/-- Whether a scalar is a number that is too long to be written. -/
def Scalar.isLongNumber : Scalar → Bool
  | .number (.whole n) => leastLongNumber ≤ n.natAbs
  | _ => false

namespace Document

mutual

/-- Whether a document has a number that is too long to be written. -/
def hasLongNumber : Document → Bool
  | .scalar s => s.isLongNumber
  | .list items => anyLongNumber items
  | .mapping fields => anyLongField fields
  | .pair first second => first.hasLongNumber || second.hasLongNumber
  | .set items => items.any Scalar.isLongNumber
  | .enclosing .. => false

/-- Whether one of several documents has such a number. -/
def anyLongNumber : List Document → Bool
  | [] => false
  | d :: rest => d.hasLongNumber || anyLongNumber rest

/-- Whether one of several fields has such a number. -/
def anyLongField : List (Scalar × Document) → Bool
  | [] => false
  | (key, d) :: rest => key.isLongNumber || d.hasLongNumber || anyLongField rest

end

end Document

end Codebook
