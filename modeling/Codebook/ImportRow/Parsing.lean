import Codebook.Definition.Block
import Codebook.Definition.Reading
import Codebook.ImportRow.Basic
import Codebook.Report

/-!
# Import rows of definition text

Headers and items of a definition text become rows, in the order of the text; what cannot be read is
set aside, or is a failure where reading is strict. A text with headers has to end up with the local
header and the open answer: they are added where they are missing, and an item that has the code of
the open answer without its text is set aside too.

Rows are then numbered from 1. The group of an answer is the first header row whose code is that of
the answer rounded down to a multiple of 100, wherever in the text the answer stands.
-/

namespace Codebook.ImportRow

open Definition

/-- How definition text is read. -/
structure Reading where
  /-- The header codes whose rows are filtered. -/
  alcoholic : List String
  /-- Whether a malformed fragment is a failure. -/
  strict : Bool
  /-- Whether the local header and the open answer are made sure of; by default in texts with headers. -/
  completed : Option Bool
deriving Repr, DecidableEq

/-- The header codes whose rows are filtered by default. -/
def defaultAlcoholic : List String := ["800", "900"]

/-- A part of a text that gives no row. -/
structure Fragment where
  line : Nat
  text : String
deriving Repr, DecidableEq

/-- The rows of a text and the fragments set aside. -/
structure Parsed where
  rows : List ImportRow
  malformed : List Fragment
deriving Repr, DecidableEq

/-! ## Rows of tokens -/

/-- The row of a header. -/
def header (alcoholic : List String) (code label : String) (properties : Properties) : ImportRow :=
  { plain label (objectNameOf code) with
    isHeader := true
    noFilter := if alcoholic.contains code then "0" else "1"
    properties := properties }

/-- The row of an item. -/
def item (code label : String) (properties : Properties) : ImportRow :=
  let row := { plain label (objectNameOf code) with properties := properties }
  if row.isOpenAnswer then row.withOpenAnswerSettings else row

/-- The row of a token and the line of the token. -/
def ofToken? (alcoholic : List String) : Token → Option (ImportRow × Nat)
  | .headerOpen code label line properties => some (header alcoholic code label properties, line)
  | .item code label line properties => some (item code label properties, line)
  | _ => none

/-- The fragment of a token that could not be read. -/
def fragmentOf? : Token → Option Fragment
  | .malformed text line => some ⟨line, text⟩
  | _ => none

/-- Whether a token is a header. -/
def isHeaderToken : Token → Bool
  | .headerOpen .. => true
  | _ => false

/-- The fragment reported for an item with the code of the open answer. -/
def claimOf (row : ImportRow) (line : Nat) : Fragment :=
  ⟨line,
    row.objectName ++ " \"" ++ row.text ++ "\" uses the reserved \"" ++ openAnswerLabel ++ "\" code"⟩

/-! ## The local header and the open answer -/

/-- Adds the local header if there is none. -/
def withLocalHeader (alcoholic : List String) (rows : List ImportRow) : Report (List ImportRow) := do
  if rows.any fun row => row.isHeader && row.objectName == localName then return rows
  Report.event .debug "no local header in definition text, appending one"
  return rows ++ [header alcoholic localCode localLabel []]

/-- Adds the open answer if there is none. -/
def withOpenAnswer (rows : List ImportRow) : Report (List ImportRow) := do
  if rows.any fun row => row.objectName == openAnswerName && row.isOpenAnswer then return rows
  Report.event .debug ("no '" ++ openAnswerLabel ++ "' row in definition text, appending one")
  return rows ++ [openAnswer]

/-! ## Positions and groups -/

/-- The object name of the header that a code belongs to; a code that is no number belongs to none. -/
def headerNameOf (code : String) : Except Text.NumeralError (Option String) :=
  if Text.isAllDigits code then
    (Text.readNumeral code).map fun n => some (objectNameOf (toString (n / 100 * 100)))
  else .ok none

/-- Rows numbered from 1. -/
def number (rows : List ImportRow) : List ImportRow :=
  rows.zipIdx.map fun (row, place) => { row with position := (place + 1 : Nat) }

/-- The position of the first header row with an object name. -/
def headerPosition? (rows : List ImportRow) (name : String) : Option Int :=
  (rows.find? fun row => row.isHeader && row.objectName == name).map position

/-- A row with its group among numbered rows. -/
def withGroup (rows : List ImportRow) (row : ImportRow) : Except Text.NumeralError ImportRow :=
  if row.isHeader then .ok { row with groupId := "" }
  else do
    let name ← headerNameOf row.code
    let position := name.bind (headerPosition? rows)
    return { row with groupId := (position.map toString).getD "" }

/-- Rows with their positions and groups. -/
def place (rows : List ImportRow) : Except Text.NumeralError (List ImportRow) :=
  (number rows).mapM (withGroup (number rows))

/-! ## Whole texts -/

/-- Sets fragments aside, or fails with the first one if reading is strict. -/
def setAside (strict : Bool) : List Fragment → Report Unit
  | [] => return ()
  | fragment :: rest =>
    if strict then Report.fail (.malformedFragment fragment.line fragment.text)
    else do
      Report.event .warning
        ("skipping malformed fragment at line " ++ toString fragment.line ++ ": "
          ++ Text.quoted fragment.text)
      setAside strict rest

/-- The rows of tokens. -/
def ofTokens (reading : Reading) (tokens : List Token) : Report Parsed := do
  let unreadable := tokens.filterMap fragmentOf?
  setAside reading.strict unreadable
  let found := tokens.filterMap (ofToken? reading.alcoholic)
  if reading.completed.getD (tokens.any isHeaderToken) then
    let (claims, kept) := found.partition fun (row, _) => row.claimsOpenAnswerCode
    let claimed := claims.map fun (row, line) => claimOf row line
    setAside reading.strict claimed
    let rows ← withOpenAnswer (← withLocalHeader reading.alcoholic (kept.map Prod.fst))
    return ⟨← Report.ofExcept ((place rows).mapError .numeral), unreadable ++ claimed⟩
  else
    return ⟨← Report.ofExcept ((place (found.map Prod.fst)).mapError .numeral), unreadable⟩

/-- The rows of a definition text. -/
def parse (reading : Reading) (text : String) : Report Parsed :=
  ofTokens reading (tokenize text)

/-! ## Blocks -/

/-- The issues of the fragments that a block has. -/
def fragmentIssue (workbook list : String) (fragment : Fragment) : Report Unit :=
  Report.issue
    ⟨workbook, list, fragment.line, "MALFORMED_BLOCK", "unparseable fragment: " ++ fragment.text⟩

/-- The rows of one block, with an issue for each fragment set aside. -/
def parseBlock (reading : Reading) (workbook : String) (block : Block) : Report Parsed := do
  let parsed ← parse reading block.text
  if !parsed.malformed.isEmpty then
    Report.event .warning
      (block.name ++ ": " ++ toString parsed.malformed.length ++ " malformed fragment(s) skipped")
  parsed.malformed.forM (fragmentIssue workbook block.name)
  return parsed

/-- The rows of blocks by name; of blocks with one name the last one counts. -/
def parseBlocks (reading : Reading) (workbook : String) (blocks : List Block) :
    Report (Keyed String Parsed) := do
  let parsed ← blocks.mapM fun block => do return (block.name, ← parseBlock reading workbook block)
  return Keyed.ofList parsed

end Codebook.ImportRow
