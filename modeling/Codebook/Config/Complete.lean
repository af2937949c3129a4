import Codebook.Config.Settings
import Codebook.Document.LongNumber
import Codebook.Document.Part

/-!
# Complete configuration documents

A configuration document in which every field is there: what the file leaves out is taken from the
defaults, the packaging and the taxonomy field by field, the market codes as a whole. A form that asks
for less than the built-in one lets documents through that cannot be completed.
-/

namespace Codebook.Config

/-! ## Gaps -/

/-- Why a document cannot be completed. -/
inductive Gap where
  | absentKey (name : String)
  /-- A value of this kind has no items. -/
  | noItems (kind : String)
  /-- A value of this kind stands where a mapping has to be. -/
  | noFields (kind : String)
  /-- A value of this kind is asked for a key. -/
  | noKeys (kind : String)
  /-- An item that should be a pair has another number of items, or none at all. -/
  | notPair (index length : Nat)
  | notSequence (index : Nat)
  /-- A value of this kind stands for a key. -/
  | notKey (kind : String)
  /-- A number that is wanted as a text is too long to be written. -/
  | longNumber
deriving Repr, DecidableEq

namespace Gap

/-- The message of a gap. -/
def message : Gap → String
  | absentKey name => Text.quoted name
  | noItems kind => "'" ++ kind ++ "' object is not iterable"
  | noFields kind => "'" ++ kind ++ "' object is not a mapping"
  | noKeys "list" => "list indices must be integers or slices, not str"
  | noKeys "tuple" => "tuple indices must be integers or slices, not str"
  | noKeys "bytes" => "byte indices must be integers or slices, not str"
  | noKeys "str" => "string indices must be integers, not 'str'"
  | noKeys kind => "'" ++ kind ++ "' object is not subscriptable"
  | notPair index length =>
    "dictionary update sequence element #" ++ toString index ++ " has length " ++ toString length
      ++ "; 2 is required"
  | notSequence index =>
    "cannot convert dictionary update sequence element #" ++ toString index ++ " to a sequence"
  | notKey kind => "unhashable type: '" ++ kind ++ "'"
  | longNumber => longNumberMessage

end Gap

/-! ## Parts of documents -/

/-- The items of a document: those of a list, a pair or a set, the keys of a mapping, the characters of
a text and the values of bytes. -/
def itemsOf : Document → Except Gap (List Document)
  | .list items => .ok (Document.list items).items
  | .pair first second => .ok (Document.pair first second).items
  | .set items => .ok (items.map .scalar)
  | .mapping fields => .ok (fields.map fun f => .scalar f.1)
  | .scalar (.text s) => .ok (s.toList.map fun c => .ofText (String.ofList [c]))
  | .scalar (.bytes values) => .ok (values.map fun (n : Nat) => .ofInt n)
  | other => .error (.noItems other.longKindName)

/-- The value under a key that has to be there. -/
def need (d : Document) (name : String) : Except Gap Document :=
  match d with
  | .mapping _ =>
    match d.part? name with
    | some value => .ok value
    | none => .error (.absentKey name)
  | other => .error (.noKeys other.longKindName)

/-- The fields with defaults, each with the value that a mapping gives for it. -/
def withDefaults (defaults : List (String × Document)) (d : Document) :
    Except Gap (List (String × Document)) :=
  match d with
  | .mapping _ => .ok (defaults.map fun (name, value) => (name, (d.part? name).getD value))
  | other => .error (.noFields other.longKindName)

/-- The plain text of a document. -/
def plainText (d : Document) : Except Gap String :=
  if d.hasLongNumber then .error .longNumber
  else
    match d with
    | .scalar s => .ok s.plainText
    | other => .ok other.shown

/-- A field with its value replaced by `read`. -/
def replaced (name : String) (read : Document → Except Gap Document) (field : String × Document) :
    Except Gap (String × Document) :=
  if field.1 == name then (read field.2).map fun value => (name, value) else .ok field

/-! ## Settings as documents -/

/-- The document of texts. -/
def ofTexts (texts : List String) : Document :=
  .list (texts.map Document.ofText)

/-- The fields of a flat list. -/
def listFields (l : ListSettings) : List (String × Document) :=
  [
    ("name", .ofText l.name), ("sheet", .ofText l.sheet),
    ("code_column", .scalar (.number l.codeColumn)),
    ("category_start_column", .scalar (.number l.categoryStartColumn)),
    ("image_list", .ofFlag l.imageList)
  ]

/-- The fields of a taxonomy. -/
def taxonomyFields (t : TaxonomySettings) : List (String × Document) :=
  [
    ("name", .ofText t.name), ("category_sheet", .ofText t.categorySheet),
    ("container_sheet", .ofText t.containerSheet), ("marker", .ofText t.marker),
    ("alcoholic_header_codes", ofTexts t.alcoholicHeaderCodes)
  ]

/-- The fields of the packaging. -/
def exportFields (e : ExportSettings) : List (String × Document) :=
  [
    ("platform", .ofText e.platform), ("output_directory", .ofText e.outputDirectory),
    ("combined_workbook", .ofFlag e.combinedWorkbook), ("image_captions", .ofFlag e.imageCaptions),
    ("tabular_lists", (e.tabularLists.map ofTexts).getD .null), ("archive", .ofFlag e.archive),
    ("strict_parsing", .ofFlag e.strictParsing)
  ]

/-- The mapping of market codes. -/
def countriesDocument (countries : Keyed Scalar String) : Document :=
  .mapping (countries.map fun c => (c.1, .ofText c.2))

/-- The complete document of settings. -/
def ofSettings (s : Settings) : Document :=
  .ofFields
    [
      ("index_sheet", .ofText s.indexSheet), ("country_cell", .ofText s.countryCell),
      ("header_row_offset", .scalar (.number s.headerRowOffset)),
      ("catalog_lists", .list (s.catalogLists.map fun l => .ofFields (listFields l))),
      ("taxonomy", .ofFields (taxonomyFields s.taxonomy)),
      ("export", .ofFields (exportFields s.exporting)), ("countries", countriesDocument s.countries)
    ]

/-! ## Complete parts -/

/-- A complete flat list. -/
def completeList (d : Document) : Except Gap Document := do
  let fields ← ["name", "sheet", "code_column", "category_start_column"].mapM fun name =>
    (need d name).map fun value => (name, value)
  return .ofFields (fields ++ [("image_list", (d.part? "image_list").getD (.ofFlag false))])

/-- The complete flat lists. -/
def completeLists (d : Document) : Except Gap Document := do
  let lists ← (← itemsOf d).mapM completeList
  return .list lists

/-- The header codes as texts. -/
def completeCodes (d : Document) : Except Gap Document := do
  return ofTexts (← (← itemsOf d).mapM plainText)

/-- A complete taxonomy. -/
def completeTaxonomy (d : Document) : Except Gap Document := do
  let fields ← withDefaults (taxonomyFields defaultTaxonomy) d
  return .ofFields (← fields.mapM (replaced "alcoholic_header_codes" completeCodes))

/-- The lists that become tables; nothing stands for all of them. -/
def completeTables (d : Document) : Except Gap Document :=
  match d with
  | .scalar .null => .ok d
  | other => (itemsOf other).map .list

/-- A complete packaging. -/
def completeExport (d : Document) : Except Gap Document := do
  let fields ← withDefaults (exportFields defaultExport) d
  return .ofFields (← fields.mapM (replaced "tabular_lists" completeTables))

/-- The key and value of an item that should be a pair. -/
def pairOf (item : Document) (index : Nat) : Except Gap (Scalar × Document) :=
  match itemsOf item with
  | .ok [.scalar key, value] => .ok (key, value)
  | .ok [other, _] => .error (.notKey other.longKindName)
  | .ok items => .error (.notPair index items.length)
  | .error _ => .error (.notSequence index)

/-- The complete market codes. -/
def completeCountries (d : Document) : Except Gap Document :=
  match d with
  | .mapping fields => .ok (.mapping fields)
  | other => do
    let pairs ← (← itemsOf other).zipIdx.mapM fun (item, index) => pairOf item index
    return .mapping (pairs.foldl (fun all p => Document.putField all p.1 p.2) [])

/-! ## Complete documents -/

/-- The value under a key, or the default if it is not there or void. -/
def filledOr (d : Document) (name : String) (value : Document) : Document :=
  match d.part? name with
  | some given => if given.isVoid then value else given
  | none => value

/-- A document in which every field is there. -/
def complete (d : Document) : Except Gap Document := do
  let lists ← completeLists (← need d "catalog_lists")
  let taxonomy ← completeTaxonomy (← need d "taxonomy")
  let exporting ← completeExport (filledOr d "export" (.mapping []))
  let countries ← completeCountries (filledOr d "countries" (countriesDocument defaultCountries))
  let plain (name : String) (value : Document) : String × Document :=
    (name, (d.part? name).getD value)
  return .ofFields
    [
      plain "index_sheet" (.ofText defaultSettings.indexSheet),
      plain "country_cell" (.ofText defaultSettings.countryCell),
      plain "header_row_offset" (.scalar (.number defaultSettings.headerRowOffset)),
      ("catalog_lists", lists), ("taxonomy", taxonomy), ("export", exporting), ("countries", countries)
    ]

/-- The sheets that a complete document names, in reading order and without repetition. -/
def sheetsOf (d : Document) : Except Gap (List Scalar) := do
  let at? (names : List String) (d : Document) : Document :=
    (names.foldlM (fun part name => Document.field? part name) d).getD .null
  let lists ← itemsOf (at? ["catalog_lists"] d)
  let named :=
    at? ["index_sheet"] d :: lists.map (at? ["sheet"])
      ++ [at? ["taxonomy", "category_sheet"] d, at? ["taxonomy", "container_sheet"] d]
  let keys ← named.mapM fun sheet =>
    match sheet with
    | .scalar key => Except.ok key
    | other => .error (.notKey other.longKindName)
  return keys.foldl Document.putItem []

end Codebook.Config
