import Codebook.Number.Shortest
import Codebook.Text.Case

/-!
# Columns

A column is named by one to three letters, `A` to `ZZZ`, and numbered from 1: the name is the number in
base 26 with the digits 1 to 26. Small letters name the same columns as capital ones.
-/

namespace Codebook

/-- Why there is no column. -/
inductive ColumnError where
  | badName (name : String)
  | badIndex (index : Number)
  /-- The number of the column is in range but given with a point. -/
  | fractionalIndex
deriving Repr, DecidableEq

namespace ColumnError

/-- The message of an error. -/
def message : ColumnError → String
  | badName name => "'" ++ name ++ "' is not a valid column name. Column names are from A to ZZZ"
  | badIndex index => "Invalid column index " ++ index.text
  | fractionalIndex => "list indices must be integers or slices, not float"

end ColumnError

namespace Column

/-- The number of the last column. -/
def greatest : Nat := 18278

/-- The value of a capital letter in a column name. -/
def letterValue? (c : Char) : Option Nat :=
  if 'A' ≤ c && c ≤ 'Z' then some (c.toNat - 'A'.toNat + 1) else none

/-- The number that a list of capital letters stands for. -/
def lettersValue? (letters : List Char) : Option Nat :=
  letters.foldlM (fun total c => (letterValue? c).map (26 * total + ·)) 0

/-- The letters of a name as they count: capital ones, of which a name has three at most. Some
letters have more than one capital; then the last three count. -/
def capitals (name : String) : List Char :=
  let letters := (Text.upper name).toList
  letters.drop (letters.length - 3)

/-- The number of a column. -/
def index (name : String) : Except ColumnError Nat :=
  if 3 < name.toList.length then .error (.badName name)
  else
    match lettersValue? (capitals name) with
    | some n => if 0 < n then .ok n else .error (.badName name)
    | none => .error (.badName name)

/-- The letters of a number from 1 on. -/
def letters (n : Nat) : List Char :=
  if n = 0 then [] else letters ((n - 1) / 26) ++ [Char.ofNat ('A'.toNat + (n - 1) % 26)]
termination_by n
decreasing_by omega

/-- The name of the column with a number from 1 on. -/
def name (n : Nat) : String :=
  String.ofList (letters n)

/-- Whether a number is one of those from 1 to the last column, or between two of them. -/
def inRange (n : Number) : Bool :=
  !n.below 1 && (n.below greatest || n.toInt? == some (greatest : Int))

/-- The name of the column with a number, if there is such a column. A number with a point names none,
not even where its fraction is zero. -/
def nameOf (n : Number) : Except ColumnError String :=
  if !inRange n then .error (.badIndex n)
  else
    match n with
    | .whole i => .ok (name i.toNat)
    | .real _ => .error .fractionalIndex

end Column

end Codebook
