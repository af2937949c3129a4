import Codebook.Sheet.Archive.Contents
import Codebook.Sheet.Spreadsheet

/-!
# Files without a workbook

Why a file with some text holds no workbook. How the file begins tells its format. A workbook is an archive
with a list of its contents, but an archive that is written as a text does not get as far as that list.
-/

namespace Codebook.Spreadsheet

/-- How the files of an old format begin that could hold a workbook but have no reader. -/
def oldFormats : List (List Nat) :=
  [[9, 0, 4, 0, 7, 0, 16, 0], [9, 2, 6, 0, 0, 0, 16, 0], [9, 4, 6, 0, 0, 0, 16, 0]]

/-- The name of the list of the contents of a workbook. -/
def contentsName : String := "[Content_Types].xml"

/-- Why there is no workbook in an archive that cannot be read. -/
def whyUnreadable : Archive.Error → ReadError
  | .damaged cause => .unreadable cause.message
  | .demanding cause => .broken (.archive cause)

/-- Why an archive with entries, which says that it holds a workbook, holds none. -/
def whyNoContents (bytes : List Nat) (entries : List Archive.Entry) : ReadError :=
  match entries.reverse.find? fun e => e.name == contentsName with
  | none => .broken .noContents
  | some e =>
    match e.content bytes with
    | .error cause => whyUnreadable cause
    | .ok content => .broken (.badContents content.isEmpty)

/-- Why an archive holds no workbook that can be read. -/
def whyNoneIn (bytes : List Nat) (entries : List Archive.Entry) : ReadError :=
  let names := entries.map fun e => Text.lower (e.name.map fun c => if c == '\\' then '/' else c)
  if names.contains "xl/workbook.xml" then whyNoContents bytes entries
  else if names.contains "xl/workbook.bin" || names.contains "content.xml" then .broken .unsupported
  else .broken .otherArchive

/-- Why a file with the text holds no workbook. -/
def whyNone (text : String) : ReadError :=
  let bytes := Archive.bytesOf text
  if oldFormats.any fun start => start.isPrefixOf bytes then .broken .unsupported
  else if Archive.entryMark.isPrefixOf bytes then
    match Archive.entries bytes with
    | .ok entries => whyNoneIn bytes entries
    | .error cause => whyUnreadable cause
  else
    .unreadable "Excel file format cannot be determined, you must specify an engine manually."

end Codebook.Spreadsheet
