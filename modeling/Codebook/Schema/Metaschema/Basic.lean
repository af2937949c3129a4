import Codebook.Schema.Dialect

/-!
# Parts of schemas of schemas

Each dialect describes its schemas by a schema. These are the parts that come back in such descriptions.
-/

namespace Codebook.Metaschema

/-- An address at the host of the dialects. -/
def addressOf (path : String) : String :=
  "http:" ++ Dialect.host ++ path

/-- An address of the draft of 2019. -/
def address2019 (path : String) : String :=
  "https:" ++ Dialect.host ++ "draft/2019-09/" ++ path

/-- An address of the draft of 2020. -/
def address2020 (path : String) : String :=
  "https:" ++ Dialect.host ++ "draft/2020-12/" ++ path

/-- A list of texts. -/
def texts (all : List String) : Document :=
  .list (all.map Document.ofText)

/-- The schema of the values of a kind. -/
def typed (kind : String) : Document :=
  .ofFields [("type", .ofText kind)]

/-- The schema of texts in a format. -/
def formatted (format : String) : Document :=
  .ofFields [("type", .ofText "string"), ("format", .ofText format)]

/-- The schema of a flag that is not set where it is left out. -/
def optionalFlag : Document :=
  .ofFields [("type", .ofText "boolean"), ("default", .ofFlag false)]

/-- The schema that a reference leads to. -/
def reference (target : String) : Document :=
  .ofFields [("$ref", .ofText target)]

/-- The schema of schemas of 2019. -/
def self2019 : Document :=
  .ofFields [("$recursiveRef", .ofText "#")]

/-- The schema of schemas of 2020. -/
def self2020 : Document :=
  .ofFields [("$dynamicRef", .ofText "#meta")]

end Codebook.Metaschema
