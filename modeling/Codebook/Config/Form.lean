import Codebook.Schema.Dialect

/-!
# The form of a configuration file

The schema that a configuration file has to follow, as a document of the seventh draft.
-/

namespace Codebook.Config

/-! ## Single values -/

/-- A value of a kind. -/
def ofKind (kind : String) : Document :=
  .ofFields [("type", .ofText kind)]

/-- A text with at least one character. -/
def filledText : Document :=
  .ofFields [("type", .ofText "string"), ("minLength", .ofInt 1)]

/-- A text that meets an expression. -/
def meeting (source : String) : Document :=
  .ofFields [("type", .ofText "string"), ("pattern", .ofText source)]

/-- A whole number from a bound on. -/
def wholeFrom (bound : Int) : Document :=
  .ofFields [("type", .ofText "integer"), ("minimum", .ofInt bound)]

/-- A letter, then letters, digits and underscores: the name of a list. -/
def listName : Document := meeting "^[A-Za-z][A-Za-z0-9_]*$"

/-- Letters, then digits: the reference of a cell. -/
def cellReference : Document := meeting "^[A-Za-z]+[0-9]+$"

/-- Two capital letters: the code of a market. -/
def marketCode : Document := meeting "^[A-Z]\x7b2\x7d$"

/-! ## Parts of the file -/

/-- A mapping with these fields and no other, of which some are required. -/
def record (required : List String) (fields : List (String × Document)) : Document :=
  .ofFields
    ([("type", .ofText "object"), ("additionalProperties", .ofFlag false)]
      ++ (if required.isEmpty then [] else [("required", .list (required.map Document.ofText))])
      ++ [("properties", .ofFields fields)])

/-- A list of items that follow a schema. -/
def listOf (items : Document) : Document :=
  .ofFields [("type", .ofText "array"), ("items", items)]

/-- A flat list. -/
def listForm : Document :=
  record ["name", "sheet", "code_column", "category_start_column"]
    [
      ("name", listName), ("sheet", filledText), ("code_column", wholeFrom 1),
      ("category_start_column", wholeFrom 1), ("image_list", ofKind "boolean")
    ]

/-- The taxonomy. -/
def taxonomyForm : Document :=
  record ["name", "category_sheet", "container_sheet"]
    [
      ("name", listName), ("category_sheet", filledText), ("container_sheet", filledText),
      ("marker", filledText),
      ("alcoholic_header_codes",
        listOf (.ofFields [("type", .list [.ofText "string", .ofText "integer"])]))
    ]

/-- The packaging. -/
def exportForm : Document :=
  record []
    [
      ("platform",
        .ofFields
          [
            ("type", .ofText "string"), ("enum", .list [.ofText "dimensions", .ofText "ifield"])
          ]),
      ("output_directory", filledText), ("combined_workbook", ofKind "boolean"),
      ("image_captions", ofKind "boolean"),
      ("tabular_lists",
        .ofFields
          [("type", .list [.ofText "array", .ofText "null"]), ("items", ofKind "string")]),
      ("archive", ofKind "boolean"), ("strict_parsing", ofKind "boolean")
    ]

/-- The market codes of countries. -/
def countriesForm : Document :=
  .ofFields
    [
      ("type", .ofText "object"), ("minProperties", .ofInt 1), ("additionalProperties", marketCode)
    ]

/-- The flat lists, at least one. -/
def listsForm : Document :=
  .ofFields [("type", .ofText "array"), ("minItems", .ofInt 1), ("items", listForm)]

/-- A configuration file. -/
def form : Document :=
  record ["catalog_lists", "taxonomy"]
    [
      ("index_sheet", filledText), ("country_cell", cellReference), ("header_row_offset", wholeFrom 0),
      ("catalog_lists", listsForm), ("taxonomy", taxonomyForm), ("export", exportForm),
      ("countries", countriesForm)
    ]

end Codebook.Config
