import Codebook.Definition.Token
import Codebook.Document.Json
import Codebook.Sheet.Cell
import Codebook.Taxonomy.Basic

/-!
# Import rows

A row of the import tables stands for a header or an answer. Its record has 27 columns: seven that say
what the row is, and twenty with settings that keep their default unless the row is the open answer.
-/

namespace Codebook

/-- The cells of a record by column, in the order of the columns. -/
abbrev Record := Keyed String Cell

namespace ImportRow

/-! ## Columns -/

/-- The columns that say what a row is. -/
def coreColumns : List String :=
  [
    "Position", "Text", "Object Name", "Group ID", "Display As Header", "No Filter",
    "Extended Properties"
  ]

/-- The columns with settings and their defaults. -/
def settingDefaults : Keyed String String :=
  [
    ("Image", ""), ("Exclusive", "0"), ("Hidden", "0"), ("Fixed Position", "0"), ("Randomize", "0"),
    ("Score", ""), ("Filter Expression", ""), ("Open Ended", "0"), ("Open Ended Type", ""),
    ("Open Ended Min Length", ""), ("Open Ended Max Length", ""), ("Open Ended Required", "0"),
    ("Visualization", "0"), ("Numeric Min", ""), ("Numeric Max", ""), ("Decimals", ""),
    ("Tooltip", ""), ("Color", ""), ("Notes", ""), ("Translation Key", "")
  ]

/-- The settings of the open answer. -/
def openAnswerSettings : Keyed String String :=
  [
    ("Exclusive", "1"), ("Fixed Position", "1"), ("Open Ended", "1"), ("Open Ended Type", "Text"),
    ("Open Ended Max Length", "255"), ("Visualization", "1")
  ]

/-- All columns. -/
def columns : List String :=
  coreColumns ++ settingDefaults.map Prod.fst

/-- The object name of a code. -/
def objectNameOf (code : String) : String :=
  "_" ++ code

/-- The object name of the local header. -/
def localName : String := objectNameOf localCode

/-- The object name of the open answer. -/
def openAnswerName : String := objectNameOf openAnswerCode

end ImportRow

/-! ## Rows -/

/-- A row of an import table. -/
structure ImportRow where
  text : String
  objectName : String
  isHeader : Bool
  noFilter : String
  properties : Definition.Properties
  /-- The number of the row in its list, from 1; 0 if it has none yet. -/
  position : Int
  /-- The position of the header of the row, or empty. -/
  groupId : String
  settings : Keyed String String
deriving Repr, DecidableEq

namespace ImportRow

/-- A row with a text and an object name, and defaults for all else. -/
def plain (text objectName : String) : ImportRow :=
  ⟨text, objectName, false, "0", [], 0, "", settingDefaults⟩

/-- A row with the settings of the open answer. -/
def withOpenAnswerSettings (row : ImportRow) : ImportRow :=
  { row with settings := row.settings.putAll openAnswerSettings }

/-- The row of the open answer. -/
def openAnswer : ImportRow :=
  (plain openAnswerLabel openAnswerName).withOpenAnswerSettings

/-- The code of a row: its object name without the underscore in front. -/
def code (row : ImportRow) : String :=
  match row.objectName.toList with
  | '_' :: rest => String.ofList rest
  | _ => row.objectName

/-- Whether the text of a row reads as the open answer; its code plays no part. -/
def isOpenAnswer (row : ImportRow) : Bool :=
  readsAsOpenAnswer row.text

/-- Whether an answer has the code of the open answer and another text. -/
def claimsOpenAnswerCode (row : ImportRow) : Bool :=
  !row.isHeader && row.objectName == openAnswerName && !row.isOpenAnswer

/-- The properties of a row as a JSON text. -/
def propertiesText (row : ImportRow) : String :=
  Json.write (.ofFields (row.properties.map fun (key, value) => (key, .ofText value)))

/-- The value of a setting. -/
def setting (row : ImportRow) (column default : String) : String :=
  (row.settings.get? column).getD default

/-- The cells of a row, column by column. -/
def record (row : ImportRow) : Record :=
  coreColumns.zip
      [
        .number (.whole row.position), .text row.text, .text row.objectName, .text row.groupId,
        .text (if row.isHeader then "1" else "0"), .text row.noFilter, .text row.propertiesText
      ]
    ++ settingDefaults.map fun (column, default) => (column, .text (row.setting column default))

end ImportRow

end Codebook
