import Codebook.Failure
import Codebook.ImportRow.Basic

/-!
# Bundles

A bundle is the set of named artifacts that a run makes for one platform: definition texts, or tables
with one record per row.
-/

namespace Codebook

/-- The platform that a bundle is made for. -/
inductive Platform where
  /-- A platform that reads definition texts. -/
  | dimensions
  /-- A platform that reads import tables. -/
  | ifield
deriving Repr, DecidableEq

namespace Platform

/-- The written form of a platform. -/
def name : Platform → String
  | dimensions => "dimensions"
  | ifield => "ifield"

/-- The form of a platform in the name of an archive. -/
def label : Platform → String
  | dimensions => "DIMENSIONS"
  | ifield => "IFIELD"

/-- The platform of a written form. -/
def ofName? (name : String) : Option Platform :=
  [dimensions, ifield].find? fun platform => platform.name == name

/-- The platform of a written form, or a failure that names it. -/
def ofName (name : String) : Except Failure Platform :=
  match ofName? name with
  | some platform => .ok platform
  | none => .error (.platform name)

end Platform

/-- What an artifact holds. -/
inductive Content where
  | text (text : String)
  /-- Records by sheet. Without columns the sheets show all columns that their records have. -/
  | table (columns : Option (List String)) (sheets : Keyed String (List Record))
deriving Repr, DecidableEq

/-- A file of a bundle. -/
structure Artifact where
  name : String
  content : Content
deriving Repr, DecidableEq

namespace Artifact

/-- The number of records of a table. -/
def rowCount (a : Artifact) : Nat :=
  match a.content with
  | .text _ => 0
  | .table _ sheets => (sheets.flatMap Prod.snd).length

end Artifact

/-- The artifacts of a run. -/
structure Bundle where
  platform : Platform
  market : String
  country : String
  artifacts : List Artifact
deriving Repr, DecidableEq

namespace Bundle

/-- The name of the archive that holds a bundle. -/
def archiveName (b : Bundle) : String :=
  "CC_PACKAGE_EXPORT_" ++ Text.upper b.country ++ "_" ++ b.platform.label ++ ".zip"

/-- The first artifact with a name. -/
def get? (b : Bundle) (name : String) : Option Artifact :=
  b.artifacts.find? fun a => a.name == name

/-- The names of the artifacts. -/
def names (b : Bundle) : List String :=
  b.artifacts.map Artifact.name

end Bundle

end Codebook
