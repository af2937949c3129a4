import Codebook.Number.Shortest
import Codebook.Text.Blank
import Codebook.Text.LineBreak

/-!
# Cells

What the cells of a sheet hold, and what becomes of them when a workbook is stored: numbers keep 16
significant digits and lose a fraction that is zero, those that are not finite are nothing, an empty
text is nothing, and a text is cut at 32767 characters and ends its lines with line feeds.
-/

namespace Codebook

/-- What a cell holds. -/
inductive Cell where
  | empty
  | text (value : String)
  | number (value : Number)
  | flag (value : Bool)
  /-- The mark of a calculation that failed. -/
  | fault
deriving Repr, DecidableEq

namespace Cell

/-- The greatest number of characters of a stored text. -/
def textLimit : Nat := 32767

/-- The greatest number of significant digits of a stored number. -/
def digitLimit : Nat := 16

/-- The number that a whole number becomes when it is written with a point. -/
def binaryOf : Number → Number.Binary64
  | .whole i => .ofInt i
  | .real x => x

/-- Whether a number is whole and so large that it cannot be stored. -/
def isTooLarge (n : Number) : Bool :=
  match n, binaryOf n with
  | .whole _, .infinite _ => true
  | _, _ => false

/-- A finite number as a workbook stores it. Rounding may carry it beyond the finite ones. -/
def storedNumber (x : Number.Binary64) : Number :=
  let rounded := x.toSignificant digitLimit
  match rounded.toInt? with
  | some i => .whole i
  | none => .real rounded

/-- A cell as a workbook stores it. -/
def stored : Cell → Cell
  | .text value =>
    if value.isEmpty then .empty
    else .text (Text.withUnifiedBreaks (String.ofList (value.toList.take textLimit)))
  | .number n =>
    match binaryOf n with
    | .finite negative significand exponent => .number (storedNumber (.finite negative significand exponent))
    | _ => .empty
  | other => other

/-- Whether a stored cell holds a number that rounding has carried beyond the finite ones. -/
def isEndless : Cell → Bool
  | .number (.real (.infinite _)) => true
  | _ => false

/-- Whether a stored cell is left out at the end of a row. -/
def isEmpty : Cell → Bool
  | .empty => true
  | .text value => value.isEmpty
  | _ => false

/-- The text that a cell shows. -/
def shown? : Cell → Option String
  | .empty => none
  | .text value => some value
  | .number (.real .notANumber) => none
  | .number n => some n.text
  | .flag value => some (if value then "True" else "False")
  | .fault => none

/-- The text that a table takes from a cell; blanks alone are no text. -/
def tableText? (cell : Cell) : Option String :=
  cell.shown?.filter fun text => !Text.isAllBlank text

end Cell

/-- The cells of a sheet, row by row; the rows may differ in length. -/
abbrev Grid := List (List Cell)

namespace Grid

/-- The number of cells of the longest row. -/
def width (grid : Grid) : Nat :=
  (grid.map List.length).foldl max 0

/-- A row without the empty cells at its end. -/
def trimRow (row : List Cell) : List Cell :=
  (row.reverse.dropWhile Cell.isEmpty).reverse

/-- The cells of a stored sheet without the empty ones at the ends of rows and without the empty rows
at the end. -/
def trimmed (grid : Grid) : Grid :=
  ((grid.map trimRow).reverse.dropWhile List.isEmpty).reverse

/-- The characters of the first cell of a sheet without a byte order mark in front. Where a quote
follows the mark, that quote and the next one go too; there is nothing if no other quote follows. -/
def withoutMark? : List Char → Option (List Char)
  | '\uFEFF' :: '"' :: chars =>
    match chars.dropWhile (· != '"') with
    | _ :: after => some (chars.takeWhile (· != '"') ++ after)
    | [] => none
  | '\uFEFF' :: chars => some chars
  | chars => some chars

/-- The cells of a sheet without a byte order mark at the front of the first cell of the first row. -/
def unmarked? : Grid → Option Grid
  | (.text value :: cells) :: rows =>
    (withoutMark? value.toList).map fun chars => (.text (String.ofList chars) :: cells) :: rows
  | grid => some grid

end Grid

end Codebook
