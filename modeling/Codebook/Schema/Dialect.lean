import Codebook.Document.Part
import Codebook.Schema.Fault

/-!
# Dialects

The dialects of schemas, from the third draft to that of December 2020. Dialects differ in the kinds of
values that they tell apart, in the keywords that they know, in whether a reference puts its neighbours
out of force, in the keyword that names a schema, and in where schemas stand inside a schema.
-/

namespace Codebook

/-! ## Kinds -/

/-- The kinds of values that schemas tell apart. -/
inductive Kind where
  | any
  | object
  | array
  | string
  | integer
  | number
  | boolean
  | null
deriving Repr, DecidableEq

namespace Kind

/-- The written form of a kind. -/
def name : Kind → String
  | any => "any"
  | object => "object"
  | array => "array"
  | string => "string"
  | integer => "integer"
  | number => "number"
  | boolean => "boolean"
  | null => "null"

/-- All kinds. -/
def all : List Kind :=
  [any, object, array, string, integer, number, boolean, null]

/-- Whether a document is of a kind; a flag is no number. With `byValue`, a number with a zero fraction
is an integer. -/
def admits (kind : Kind) (byValue : Bool) (d : Document) : Bool :=
  match kind, d with
  | any, _ => true
  | object, _ => d.isMapping
  | array, _ => d.isList
  | string, .scalar (.text _) => true
  | integer, .scalar (.number (.whole _)) => true
  | integer, .scalar (.number (.real x)) => byValue && x.toInt?.isSome
  | number, .scalar (.number _) => true
  | boolean, .scalar (.flag _) => true
  | null, .scalar .null => true
  | _, _ => false

end Kind

/-! ## Dialects -/

/-- The dialects of schemas. -/
inductive Dialect where
  | draft3
  | draft4
  | draft6
  | draft7
  | draft2019
  | draft2020
deriving Repr, DecidableEq

namespace Dialect

/-- All dialects. -/
def all : List Dialect :=
  [draft3, draft4, draft6, draft7, draft2019, draft2020]

/-- The host at which the dialects are described. -/
def host : String := "//json-schema.org/"

/-- The address of a dialect. -/
def address : Dialect → String
  | draft3 => "http:" ++ host ++ "draft-03/schema"
  | draft4 => "http:" ++ host ++ "draft-04/schema"
  | draft6 => "http:" ++ host ++ "draft-06/schema"
  | draft7 => "http:" ++ host ++ "draft-07/schema"
  | draft2019 => "https:" ++ host ++ "draft/2019-09/schema"
  | draft2020 => "https:" ++ host ++ "draft/2020-12/schema"

/-- The dialect at an address. -/
def at? (address : String) : Option Dialect :=
  all.find? fun dialect => dialect.address == address

/-! ## Kinds of a dialect -/

/-- The kind that a dialect knows by a name. -/
def kindNamed? (dialect : Dialect) (name : String) : Option Kind :=
  (Kind.all.find? fun k => k.name == name).filter fun k => k != .any || dialect == draft3

/-- Whether a document is of a kind in a dialect; the older ones ask how an integer is written. -/
def admits (dialect : Dialect) (kind : Kind) (d : Document) : Bool :=
  kind.admits (dialect != draft3 && dialect != draft4) d

/-! ## Keywords -/

/-- Whether a reference puts the keywords beside it out of force. -/
def hasLoneReferences : Dialect → Bool
  | draft2019 | draft2020 => false
  | _ => true

/-- The keywords that every dialect knows. -/
def sharedKeywords : List String :=
  [
    "$ref", "additionalProperties", "enum", "format", "items", "maxItems", "maxLength", "maximum",
    "minItems", "minLength", "minimum", "pattern", "patternProperties", "properties", "type",
    "uniqueItems"
  ]

/-- The keywords that came with the fourth draft. -/
def fourthKeywords : List String :=
  ["allOf", "anyOf", "maxProperties", "minProperties", "multipleOf", "not", "oneOf", "required"]

/-- The keywords that came with the sixth draft. -/
def sixthKeywords : List String :=
  ["const", "contains", "exclusiveMaximum", "exclusiveMinimum", "propertyNames"]

/-- The keywords that came in September 2019. -/
def ninthKeywords : List String :=
  ["dependentRequired", "dependentSchemas", "unevaluatedItems", "unevaluatedProperties"]

/-- The keywords of a dialect beside those of all dialects. -/
def ownKeywords : Dialect → List String
  | draft3 => ["additionalItems", "dependencies", "disallow", "divisibleBy", "extends"]
  | draft4 => "additionalItems" :: "dependencies" :: fourthKeywords
  | draft6 => "additionalItems" :: "dependencies" :: fourthKeywords ++ sixthKeywords
  | draft7 => "additionalItems" :: "dependencies" :: "if" :: fourthKeywords ++ sixthKeywords
  | draft2019 =>
    "$recursiveRef" :: "additionalItems" :: "if" :: fourthKeywords ++ sixthKeywords ++ ninthKeywords
  | draft2020 =>
    "$dynamicRef" :: "if" :: "prefixItems" :: fourthKeywords ++ sixthKeywords ++ ninthKeywords

/-- Whether a dialect knows a keyword. -/
def knows (dialect : Dialect) (keyword : String) : Bool :=
  sharedKeywords.contains keyword || dialect.ownKeywords.contains keyword

/-! ## Names of schemas -/

/-- A text without the number signs at its end. -/
def withoutSigns (text : String) : String :=
  String.ofList (text.toList.reverse.dropWhile (· == '#')).reverse

/-- The text under a keyword, without the number signs at its end. -/
def nameUnder? (schema : Document) (keyword : String) : Except SchemaFault (Option String) :=
  match schema.field? keyword with
  | none | some (.scalar .null) => .ok none
  | some (.scalar (.text name)) => .ok (some (withoutSigns name))
  | some other => other.misused (.asked "rstrip")

/-- The text under a keyword that does not begin with a number sign. -/
def fullNameUnder? (schema : Document) (keyword : String) : Except SchemaFault (Option String) :=
  match schema.field? keyword with
  | none | some (.scalar .null) => .ok none
  | some (.scalar (.text name)) =>
    .ok (if name.startsWith "#" then none else some (withoutSigns name))
  | some other => other.misused (.asked "startswith")

/-- The address that a schema gives itself, as a reference from the address around it. -/
def nameOf? (dialect : Dialect) (schema : Document) : Except SchemaFault (Option String) :=
  match dialect, schema with
  | draft3, .mapping _ | draft4, .mapping _ =>
    if (schema.field? "$ref").isSome then .ok none else fullNameUnder? schema "id"
  | draft6, .mapping _ | draft7, .mapping _ => fullNameUnder? schema "$id"
  | _, .mapping _ => nameUnder? schema "$id"
  | draft3, .scalar (.text text) | draft4, .scalar (.text text) =>
    if (text.splitOn "$ref").length == 1 then schema.misused (.asked "get") else .ok none
  | draft3, .list _ | draft4, .list _ => schema.misused (.asked "get")
  | draft3, _ | draft4, _ => schema.misused .searched
  | _, .scalar (.flag _) => .ok none
  | _, _ => schema.misused (.asked "get")

/-! ## Schemas inside a schema -/

/-- Where schemas stand inside a schema. -/
structure Positions where
  /-- Keywords with a schema. -/
  single : List String
  /-- Keywords with a schema, unless something else than a mapping is there. -/
  optional : List String
  /-- Keywords with a list of schemas. -/
  listed : List String
  /-- Keywords with schemas under names. -/
  named : List String
  /-- Keywords with a schema or several. -/
  mixed : List String
deriving Repr, DecidableEq

/-- Where schemas stand inside a schema of a dialect. -/
def positions : Dialect → Positions
  | draft3 => ⟨[], extra, ["extends"], definitions, mixed⟩
  | draft4 => ⟨["not"], extra, choices, definitions, mixed⟩
  | draft6 => ⟨extra ++ sixth, [], choices, definitions, mixed⟩
  | draft7 => ⟨extra ++ branches ++ sixth, [], choices, definitions, mixed⟩
  | draft2019 =>
    ⟨"additionalItems" :: latest, [], choices, "$defs" :: "dependentSchemas" :: definitions, ["items"]⟩
  | draft2020 =>
    ⟨"items" :: latest, [], "prefixItems" :: choices, "$defs" :: "dependentSchemas" :: definitions, []⟩
where
  choices := ["allOf", "anyOf", "oneOf"]
  definitions := ["definitions", "patternProperties", "properties"]
  mixed := ["items", "dependencies"]
  extra := ["additionalItems", "additionalProperties"]
  sixth := ["contains", "not", "propertyNames"]
  branches := ["else", "if", "then"]
  latest :=
    branches
      ++ [
        "additionalProperties", "contains", "contentSchema", "not", "propertyNames",
        "unevaluatedItems", "unevaluatedProperties"
      ]

end Dialect

namespace Dialect.Positions

/-- The schemas under a keyword with a schema or several. Where keys depend on others, the first value
tells whether the values are schemas. -/
def mixedIn (keyword : String) (value : Document) : Except SchemaFault (List Document) :=
  match keyword, value with
  | _, .scalar .null => .ok []
  | "dependencies", _ =>
    value.values.map fun all => if all.head?.any Document.isMapping then all else []
  | _, .list _ | _, .scalar (.text _) => value.held
  | _, schema => .ok [schema]

/-- What stands where schemas stand inside a schema. -/
def schemasIn (positions : Positions) (schema : Document) : Except SchemaFault (List Document) := do
  let values (keywords : List String) : List Document := keywords.filterMap schema.field?
  let listed ← (values positions.listed).mapM Document.held
  let named ← (values positions.named).mapM Document.values
  let mixed ← positions.mixed.mapM fun keyword =>
    match schema.field? keyword with
    | some value => mixedIn keyword value
    | none => .ok []
  return values positions.single ++ listed.flatten ++ named.flatten ++ mixed.flatten
    ++ (values positions.optional).filter Document.isMapping

/-- Whether steps lead from a schema to a schema inside it. -/
def leadInside (positions : Positions) (isMapping : Bool) : List Scalar → Bool
  | [] => true
  | .text name :: rest =>
    if positions.mixed.contains name && isMapping then true
    else if positions.single.contains name || positions.optional.contains name then
      leadInside positions isMapping rest
    else if positions.listed.contains name || positions.named.contains name then
      match rest with
      | [] => false
      | _ :: rest => leadInside positions isMapping rest
    else false
  | _ :: _ => false

end Dialect.Positions

end Codebook
