import Codebook.Sheet.Archive
import Codebook.Sheet.Column
import Codebook.Text.Numeral

/-!
# Failures

Why a run, or a part of it, has no result. Five of the causes are reported to the user of a run as the
reason for which it stopped; the others are faults that no input of a well set up run brings about.
-/

namespace Codebook

/-- What is wrong with a workbook in a way that no reader is prepared for. -/
inductive WorkbookFault where
  /-- The file has a format for which there is no reader. -/
  | unsupported
  /-- A cell holds a number beyond the finite ones. -/
  | endlessNumber
  /-- The file is an archive, but of no kind that is known. -/
  | otherArchive
  /-- The file is an archive that lacks the list of its contents. -/
  | noContents
  /-- The file is an archive that asks for something that no reader is prepared for. -/
  | archive (demand : Archive.Demand)
  /-- The list of the contents of the file is no document, and empty perhaps. -/
  | badContents (isEmpty : Bool)
deriving Repr, DecidableEq

namespace WorkbookFault

/-- The message of a fault. -/
def message : WorkbookFault → String
  | unsupported =>
    "`Import python-calamine` failed.  Use pip, conda, or your preferred package management tool to "
      ++ "install the python-calamine package."
  | endlessNumber => "cannot convert float infinity to integer"
  | otherArchive => "'zip'"
  | noContents => "\"There is no item named '[Content_Types].xml' in the archive\""
  | archive demand => demand.message
  | badContents isEmpty =>
    if isEmpty then "no element found: line 1, column 0" else "syntax error: line 1, column 0"

end WorkbookFault

/-- Why there is no result. -/
inductive Failure where
  /-- A sheet that is needed is not in the workbook. -/
  | missingSheet (sheet : String)
  /-- The country in the index sheet has no market code; there may be none at all. -/
  | unrecognizedCountry (country : Option String)
  /-- No entry of a list is left. -/
  | emptyList (list : String)
  /-- A fragment of definition text cannot be read, and reading is strict. -/
  | malformedFragment (line : Nat) (fragment : String)
  | unreadableWorkbook (path reason : String)
  | brokenWorkbook (cause : WorkbookFault)
  | numeral (cause : Text.NumeralError)
  | column (cause : ColumnError)
  | cellReference (reference : String)
  /-- The row of the column labels is given by a number with a point. -/
  | fractionalOffset
  /-- A key of the country table is not a text but of this kind. -/
  | countryKey (kind : String)
  | platform (name : String)
deriving Repr, DecidableEq

namespace Failure

/-- The message of a failure. -/
def message : Failure → String
  | missingSheet sheet => "required sheet not found: '" ++ sheet ++ "'"
  | unrecognizedCountry country => "country not recognized: '" ++ country.getD "None" ++ "'"
  | emptyList list => "list '" ++ list ++ "' produced no entries"
  | malformedFragment line fragment =>
    "malformed definition fragment at line " ++ toString line ++ ": " ++ Text.quoted fragment
  | unreadableWorkbook path reason => "cannot read workbook " ++ path ++ ": " ++ reason
  | brokenWorkbook cause => cause.message
  | numeral cause => cause.message
  | column cause => cause.message
  | cellReference reference => "invalid cell reference: " ++ Text.quoted reference
  | fractionalOffset => "list indices must be integers or slices, not float"
  | countryKey kind => "'" ++ kind ++ "' object has no attribute 'casefold'"
  | platform name => Text.quoted name ++ " is not a valid TargetPlatform"

/-- The kind under which the issue log files a failure that stops a run. -/
def issueKind? : Failure → Option String
  | missingSheet _ => some "MISSING_SHEET"
  | unrecognizedCountry _ => some "UNRECOGNIZED_COUNTRY"
  | emptyList _ => some "EMPTY_LIST"
  | malformedFragment .. => some "MALFORMED_BLOCK"
  | unreadableWorkbook .. => some "UNREADABLE_WORKBOOK"
  | _ => none

end Failure

end Codebook
