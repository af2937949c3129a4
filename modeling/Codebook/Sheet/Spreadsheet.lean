import Codebook.Sheet.Table
import Codebook.Text.Case
import Codebook.Text.Digit

/-!
# Spreadsheets

A spreadsheet is what a file holds: sheets with their titles, in the order of the file, and their cells
as they are stored. A file without sheets, a title with a character that is reserved, a text with a
control character and a whole number beyond the finite ones cannot be stored. Two titles may not differ
in case alone, so the later one gets a number.

Reading turns the sheets that are wanted into the tables of a workbook.
-/

namespace Codebook

/-- Why sheets cannot be stored. -/
inductive SpreadsheetError where
  | noSheet
  | emptyTitle
  | badTitle (c : Char)
  | badText (text : String)
  | tooLarge
deriving Repr, DecidableEq

namespace SpreadsheetError

/-- The message of an error. -/
def message : SpreadsheetError → String
  | noSheet => "At least one sheet must be visible"
  | emptyTitle => "Title must have at least one character"
  | badTitle c => "Invalid character " ++ c.toString ++ " found in sheet title"
  | badText text => text ++ " cannot be used in worksheets."
  | tooLarge => "int too large to convert to float"

end SpreadsheetError

/-- The sheets of a file with their titles. -/
abbrev Spreadsheet := List (String × Grid)

namespace Spreadsheet

/-! ## Titles -/

/-- The characters that a title may not hold. -/
def reserved : List Char := ['\\', '*', '?', ':', '/', '[', ']']

/-- The characters after a beginning that is met in any case. -/
def afterIgnoringCase? : List Char → List Char → Option (List Char)
  | [], chars => some chars
  | _ :: _, [] => none
  | a :: wanted, c :: chars =>
    if Text.meetsInAnyCase a c then afterIgnoringCase? wanted chars else none

/-- The digits that follow a title wherever it is met in a text. -/
def digitsAfter (title : List Char) (fuel : Nat) (chars : List Char) : List (List Char) :=
  match fuel, chars with
  | 0, _ => []
  | _, [] => []
  | fuel + 1, _ :: next =>
    match afterIgnoringCase? title chars with
    | none => digitsAfter title fuel next
    | some after =>
      let rest := after.dropWhile Text.isDecimal
      let rest := if rest.head? == some ',' then rest.drop 1 else rest
      after.takeWhile Text.isDecimal :: digitsAfter title fuel rest

/-- A title that differs from the titles in use by more than case: the wanted one, or that one with
the number after the greatest in use. -/
def freeTitle (used : List String) (wanted : String) : String :=
  if used.any fun title => Text.lower title == Text.lower wanted then
    let text := (",".intercalate used).toList
    match digitsAfter wanted.toList text.length text with
    | [] => wanted
    | found => wanted ++ toString ((found.map Text.decimalNumber).foldl max 0 + 1)
  else wanted

/-- The title of a sheet to which none is given. -/
def defaultTitle : String := "Sheet"

/-- Refuses a title with a reserved character. -/
def checkTitle (title : String) : Except SpreadsheetError Unit :=
  match title.toList.find? reserved.contains with
  | some c => .error (.badTitle c)
  | none => .ok ()

/-! ## Cells -/

/-- Whether a character cannot stand in a cell. -/
def isControl (c : Char) : Bool :=
  c.toNat < 0x20 && c != '\t' && c != '\n' && c != '\r'

/-- The text of a cell that cannot be stored. -/
def badText? : Cell → Option String
  | .text value =>
    let kept := value.toList.take Cell.textLimit
    if kept.any isControl then some (String.ofList kept) else none
  | _ => none

/-- Refuses cells of which one has a text that cannot be stored. -/
def checkTexts (cells : List Cell) : Except SpreadsheetError Unit :=
  match cells.findSome? badText? with
  | some text => .error (.badText text)
  | none => .ok ()

/-- Whether a cell holds a number that cannot be stored. -/
def isTooLarge : Cell → Bool
  | .number n => Cell.isTooLarge n
  | _ => false

/-- Stores sheets with the titles that they get; numbers are looked at when all sheets are there. -/
def storeAll (sheets : List (String × Grid)) : Except SpreadsheetError Spreadsheet :=
  if sheets.isEmpty then .error .noSheet
  else if sheets.any fun (_, grid) => grid.any fun row => row.any isTooLarge then .error .tooLarge
  else .ok (sheets.map fun (title, grid) => (title, grid.map fun row => row.map Cell.stored))

/-! ## Storing sheets -/

/-- Gives sheets their titles, after those with the titles `used`. -/
def titled (used : List String) : List (String × Grid) → Except SpreadsheetError (List (String × Grid))
  | [] => .ok []
  | (name, grid) :: rest => do
    let wanted := if name.isEmpty then defaultTitle else name
    checkTitle wanted
    checkTexts grid.flatten
    let title := freeTitle used wanted
    return (title, grid) :: (← titled (used ++ [title]) rest)

/-- The spreadsheet with the given sheets. -/
def ofSheets (sheets : List (String × Grid)) : Except SpreadsheetError Spreadsheet := do
  storeAll (← titled [] sheets)

/-! ## Reading -/

/-- Why a file gives no workbook. -/
inductive ReadError where
  | unreadable (reason : String)
  | broken (cause : WorkbookFault)
deriving Repr, DecidableEq

/-- The cells of a stored sheet as they are read. -/
def readSheet (title : String) (grid : Grid) : Except ReadError Grid :=
  if grid.any fun row => row.any Cell.isEndless then .error (.broken .endlessNumber)
  else
    match grid.trimmed.unmarked? with
    | some cells => .ok cells
    | none => .error (.unreadable ("substring not found (sheet: " ++ title ++ ")"))

/-- The workbook with the sheets whose titles are wanted. -/
def read (wanted : String → Bool) (sheets : Spreadsheet) : Except ReadError Workbook := do
  let read ← (sheets.filter fun (title, _) => wanted title).mapM fun (title, grid) =>
    (readSheet title grid).map fun cells => (title, cells)
  return Keyed.ofList read

end Spreadsheet

end Codebook
