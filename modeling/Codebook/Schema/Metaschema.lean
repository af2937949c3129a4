import Codebook.Schema.Metaschema.Draft2019
import Codebook.Schema.Metaschema.Draft2020
import Codebook.Schema.Metaschema.Early
import Codebook.Schema.Metaschema.Middle

/-!
# Schemas of schemas

The schema that describes the schemas of each dialect, and all resources that these descriptions consist
of.
-/

namespace Codebook

/-- The schema of the schemas of a dialect. -/
def Dialect.metaschema : Dialect → Document
  | draft3 => Metaschema.draft3
  | draft4 => Metaschema.draft4
  | draft6 => Metaschema.draft6
  | draft7 => Metaschema.draft7
  | draft2019 => Metaschema.whole2019
  | draft2020 => Metaschema.whole2020

namespace Metaschema

/-- The vocabularies of the latest dialects, with their addresses. -/
def vocabularies : List (String × Dialect × Document) :=
  [
    (address2019 "meta/core", .draft2019, core2019),
    (address2019 "meta/applicator", .draft2019, applicator2019),
    (address2019 "meta/validation", .draft2019, validation2019),
    (address2019 "meta/meta-data", .draft2019, metaData2019),
    (address2019 "meta/format", .draft2019, format2019),
    (address2019 "meta/content", .draft2019, content2019),
    (address2020 "meta/core", .draft2020, core2020),
    (address2020 "meta/applicator", .draft2020, applicator2020),
    (address2020 "meta/unevaluated", .draft2020, unevaluated2020),
    (address2020 "meta/validation", .draft2020, validation2020),
    (address2020 "meta/meta-data", .draft2020, metaData2020),
    (address2020 "meta/format-annotation", .draft2020, format2020),
    (address2020 "meta/content", .draft2020, content2020)
  ]

/-- The resources that the descriptions of the dialects consist of, with their addresses. -/
def resources : List (String × Dialect × Document) :=
  (Dialect.all.map fun dialect => (dialect.address, dialect, dialect.metaschema)) ++ vocabularies

end Metaschema

end Codebook
