import Codebook.Schema.Unevaluated

/-!
# Validation

Whether a document follows a schema. A schema is a document itself, and first it has to follow the schema
that describes its dialect. Then it is applied to the document keyword by keyword, and of the violations
one is reported. Schemas that refer to themselves may be applied without end, so there is a limit to how
many of them are applied one inside the other.
-/

namespace Codebook

/-- Why a document is not accepted under a schema. -/
inductive Refusal where
  /-- The schema is not one of its dialect, as its first violation shows. -/
  | badSchema (first : Violation)
  | broken (breach : Breach)
  | fault (cause : SchemaFault)

namespace Application

/-- Applies a keyword. -/
def applyOne? (a : Application) (apply : Apply) (keyword : String) (value d : Document) :
    Search Unit :=
  match keyword with
  | "unevaluatedItems" => a.applyToLoneItems apply d
  | "unevaluatedProperties" => a.applyToLoneKeys apply value d
  | _ => do
    a.assert keyword value d
    a.applyKeyword apply keyword value d

/-- Whether the steps to a keyword tell the keyword. -/
def isStep (keyword : String) : Bool :=
  keyword != "if" && keyword != "$ref"

/-- Applies a schema to a value; `depth` bounds how many schemas are applied one inside the other. -/
def applied (depth : Nat) (a : Application) (d : Document) : Search Unit :=
  match depth with
  | 0 => throw .endless
  | depth + 1 => do
    for (keyword, value) in ← Search.get a.keywords do
      let step := if isStep keyword then some (.text keyword) else none
      Search.changed (underSteps none step) (a.applyOne? (applied depth) keyword value d)

/-- Applies a whole schema to a whole document. -/
def search (a : Application) (d : Document) : Search Unit :=
  match a.schema with
  | .scalar (.flag true) => return ()
  | .scalar (.flag false) => refuse d
  | _ => applied depthLimit a d

end Application

namespace Schema

/-- The whole schema of a dialect, ready to be applied. -/
def application (dialect : Dialect) (schema : Document) : Application :=
  let registry := Registry.ofRoot ⟨schema, dialect⟩
  ⟨registry, dialect, dialect, ⟨registry.address, []⟩, schema, false⟩

/-- The schema that describes a dialect, ready to be applied. -/
def description (dialect : Dialect) : Application :=
  let registry : Registry := ⟨dialect.address, ⟨dialect.metaschema, dialect⟩, .ok []⟩
  ⟨registry, dialect, dialect, ⟨dialect.address, []⟩, dialect.metaschema, true⟩

/-- The violations of a schema by a document, in the order of the keywords, and the fault that ended the
search for them, if any. -/
def violations (dialect : Dialect) (schema d : Document) : List Violation × Option SchemaFault :=
  ((application dialect schema).search d).result

/-- Whether a document follows a schema of a dialect; if not, the refusal tells the breach that
counts. -/
def checkIn (dialect : Dialect) (schema d : Document) : Except Refusal Unit :=
  let (found, fault?) := violations dialect schema d
  match Violation.reported found fault? with
  | .ok none => .ok ()
  | .ok (some v) => .error (.broken v.breach)
  | .error cause => .error (.fault cause)

/-- Whether a schema follows the description of its dialect. -/
def checkSchema (dialect : Dialect) (schema : Document) : Except Refusal Unit :=
  match ((description dialect).search schema).result with
  | (first :: _, _) => .error (.badSchema first)
  | ([], some cause) => .error (.fault cause)
  | ([], none) => .ok ()

/-- Whether a document follows a schema that may be none. -/
def check (schema d : Document) : Except Refusal Unit := do
  let dialect ← (Dialect.draft2020.ofSchema schema).mapError .fault
  checkSchema dialect schema
  checkIn dialect schema d

end Schema

end Codebook
