/-!
# Catalogs

A catalog is a flat list of entries, for brands or for imagery.
-/

namespace Codebook

/-- An entry of a catalog. -/
structure Entry where
  code : String
  label : String
  /-- The codes of the categories that the entry belongs to. -/
  categories : List String
  /-- Whether the entry is one of an imagery list, whose labels carry markup. -/
  isImage : Bool
deriving Repr, DecidableEq

/-- A flat list of entries. -/
structure Catalog where
  name : String
  entries : List Entry
deriving Repr, DecidableEq

end Codebook
