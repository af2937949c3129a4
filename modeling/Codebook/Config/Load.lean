import Codebook.Config.Complete
import Codebook.Config.Form
import Codebook.Document.Json
import Codebook.Schema.Validation
import Codebook.Yaml.Value

/-!
# Reading a configuration file

A configuration file is a YAML document that is a mapping and follows the form. Completed with the
defaults, it gives the settings of a run.
-/

namespace Codebook.Config

/-! ## Errors -/

/-- What is wrong with a configuration in a way that no reader of it is prepared for. -/
inductive Fault where
  /-- A value of the file is at fault, though the file is well formed. -/
  | value (cause : Yaml.Fault)
  /-- The file that holds the form cannot be read to its end. -/
  | formText (cause : Json.Error)
  /-- The form is no schema, as its first violation shows. -/
  | badForm (first : Violation)
  /-- The form cannot be applied to the file. -/
  | form (cause : SchemaFault)
  /-- A form that asks for less let a file through that cannot be completed. -/
  | incomplete (gap : Gap)
  /-- A form that asks for less let a file through in which a value, shown here, is of no use. -/
  | unusable (value : String)

/-- Why there are no settings. -/
inductive Error where
  | fileNotFound (path : String)
  | notYaml
  | notMapping (kind : String)
  | formNotFound (path : String)
  | formUnreadable
  | broken (breach : Breach)
  | fault (cause : Fault)

namespace Fault

/-- The message of a fault. -/
def message : Fault → String
  | value cause => cause.message
  | formText cause => cause.message
  | badForm first => first.fullMessage
  | form cause => cause.message
  | incomplete gap => gap.message
  | unusable shown => "value of no use: " ++ shown

end Fault

namespace Error

/-- The message of an error. -/
def message : Error → String
  | fileNotFound path => "config file not found: " ++ path
  | notYaml => "invalid yaml: not a document of scalars, lists and mappings"
  | notMapping kind => "config validation failed: top level must be a mapping, got " ++ kind
  | formNotFound path => "config schema not found: " ++ path
  | formUnreadable => "invalid schema file: not a JSON text"
  | broken breach => "config validation failed: " ++ breach.message
  | fault cause => cause.message

end Error

/-! ## The form -/

/-- Where the form comes from. -/
inductive FormSource where
  | builtIn
  | missing (path : String)
  | file (text : String)

/-- Why a document that does not follow a form gives no settings. -/
def Error.ofRefusal : Refusal → Error
  | .badSchema first => .fault (.badForm first)
  | .broken breach => .broken breach
  | .fault cause => .fault (.form cause)

/-- Whether a document follows the form of a source; if not, the error tells the breach that counts. -/
def check (source : FormSource) (d : Document) : Except Error Unit :=
  match source with
  | .builtIn => (Schema.checkIn .draft7 form d).mapError .ofRefusal
  | .missing path => .error (.formNotFound path)
  | .file text =>
    match Json.read text with
    | .error .malformed => .error .formUnreadable
    | .error cause => .error (.fault (.formText cause))
    | .ok schema => (Schema.check schema d).mapError .ofRefusal

/-! ## Values -/

/-- A text. -/
def asText : Document → Except Error String
  | .scalar (.text s) => .ok s
  | other => .error (.fault (.unusable other.shown))

/-- A number. -/
def asNumber : Document → Except Error Number
  | .scalar (.number n) => .ok n
  | other => .error (.fault (.unusable other.shown))

/-- A truth value. -/
def asFlag : Document → Except Error Bool
  | .scalar (.flag b) => .ok b
  | other => .error (.fault (.unusable other.shown))

/-- A list of values that `read` reads. -/
def asList {α : Type} (read : Document → Except Error α) : Document → Except Error (List α)
  | .list items => items.mapM read
  | other => .error (.fault (.unusable other.shown))

/-- A value that `read` reads, or nothing. -/
def asOption {α : Type} (read : Document → Except Error α) : Document → Except Error (Option α)
  | .scalar .null => .ok none
  | other => (read other).map some

/-- The value of a field that `read` reads. -/
def fieldAs {α : Type} (d : Document) (name : String) (read : Document → Except Error α) :
    Except Error α :=
  ((need d name).mapError fun gap => .fault (.incomplete gap)).bind read

/-! ## Settings of complete documents -/

/-- The settings of a flat list. -/
def readList (d : Document) : Except Error ListSettings := do
  return {
    name := ← fieldAs d "name" asText
    sheet := ← fieldAs d "sheet" asText
    codeColumn := ← fieldAs d "code_column" asNumber
    categoryStartColumn := ← fieldAs d "category_start_column" asNumber
    imageList := ← fieldAs d "image_list" asFlag
  }

/-- The settings of the taxonomy. -/
def readTaxonomy (d : Document) : Except Error TaxonomySettings := do
  return {
    name := ← fieldAs d "name" asText
    categorySheet := ← fieldAs d "category_sheet" asText
    containerSheet := ← fieldAs d "container_sheet" asText
    marker := ← fieldAs d "marker" asText
    alcoholicHeaderCodes := ← fieldAs d "alcoholic_header_codes" (asList asText)
  }

/-- The settings of the packaging. -/
def readExport (d : Document) : Except Error ExportSettings := do
  return {
    platform := ← fieldAs d "platform" asText
    outputDirectory := ← fieldAs d "output_directory" asText
    combinedWorkbook := ← fieldAs d "combined_workbook" asFlag
    imageCaptions := ← fieldAs d "image_captions" asFlag
    tabularLists := ← fieldAs d "tabular_lists" (asOption (asList asText))
    archive := ← fieldAs d "archive" asFlag
    strictParsing := ← fieldAs d "strict_parsing" asFlag
  }

/-- The market codes of countries. -/
def readCountries : Document → Except Error (Keyed Scalar String)
  | .mapping fields => fields.mapM fun (key, value) => (asText value).map fun code => (key, code)
  | other => .error (.fault (.unusable other.shown))

/-- The settings of a complete document. -/
def settings (d : Document) : Except Error Settings := do
  return {
    indexSheet := ← fieldAs d "index_sheet" asText
    countryCell := ← fieldAs d "country_cell" asText
    headerRowOffset := ← fieldAs d "header_row_offset" asNumber
    catalogLists := ← fieldAs d "catalog_lists" (asList readList)
    taxonomy := ← fieldAs d "taxonomy" readTaxonomy
    exporting := ← fieldAs d "export" readExport
    countries := ← fieldAs d "countries" readCountries
  }

/-! ## The whole file -/

/-- The document of the text of a configuration file, which is a mapping; an empty text is one without
fields. -/
def readDocument (text : String) : Except Error Document :=
  match Yaml.read text with
  | .error (.fault cause) => .error (.fault (.value cause))
  | .error .malformed => .error .notYaml
  | .ok d =>
    if d.isVoid then .ok (.mapping [])
    else
      match d with
      | .mapping fields => .ok (.mapping fields)
      | other => .error (.notMapping other.kindName)

/-- The complete document of the text of a configuration file that follows the form. -/
def document (source : FormSource) (text : String) : Except Error Document := do
  let d ← readDocument text
  check source d
  (complete d).mapError fun gap => .fault (.incomplete gap)

/-- The settings of the text of a configuration file. -/
def load (source : FormSource) (text : String) : Except Error Settings := do
  settings (← document source text)

end Codebook.Config
