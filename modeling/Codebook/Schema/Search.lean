import Codebook.Document.Equality
import Codebook.Expression.Matching
import Codebook.Expression.Reading
import Codebook.Schema.Resource
import Codebook.Schema.Violation

/-!
# Searching for violations

A search finds the violations of a schema by a document in the order of the keywords. A fault ends it, and
the violations found before still count. A schema is applied to a value in surroundings that say where its
references lead and what its dialect is; schemas inside it are applied in the same way, one step further.
-/

namespace Codebook

/-! ## Searches -/

/-- A search: it goes on from the violations found so far, unless a fault ends it. -/
abbrev Search := ExceptT SchemaFault (StateM (Array Violation))

namespace Search

/-- The violations of a search and the fault that ended it, if any. -/
def result (s : Search Unit) : List Violation × Option SchemaFault :=
  match s.run.run #[] with
  | (.ok _, found) => (found.toList, none)
  | (.error fault, found) => (found.toList, some fault)

/-- A search whose violations are changed. -/
def changed (change : Violation → Violation) (s : Search Unit) : Search Unit :=
  ExceptT.mk fun before =>
    let (outcome, found) := s.run.run #[]
    (outcome, before ++ found.map change)

/-- The violations of a search by itself. -/
def gathered (s : Search Unit) : Search (List Violation) :=
  ExceptT.mk fun before =>
    let (outcome, found) := s.run.run #[]
    (outcome.map fun _ => found.toList, before)

/-- Whether a search finds nothing. A fault after the first violation does not count. -/
def isEmpty (s : Search Unit) : Search Bool :=
  ExceptT.mk fun before =>
    let (outcome, found) := s.run.run #[]
    (if found.isEmpty then outcome.map fun _ => true else .ok false, before)

/-- The value of a computation, whose fault ends the search. -/
def get {α : Type} (value : Except SchemaFault α) : Search α :=
  ExceptT.mk fun before => (value, before)

/-- Adds a violation. -/
def add (v : Violation) : Search Unit :=
  ExceptT.mk fun before => (.ok (), before.push v)

end Search

/-! ## Schemas that are applied -/

/-- A schema as it is applied. -/
structure Application where
  registry : Registry
  /-- The dialect of the schema around it, which says whether references stand alone. -/
  around : Dialect
  dialect : Dialect
  resolver : Resolver
  schema : Document
  /-- Whether the formats of texts count. -/
  hasFormats : Bool

/-- How a schema is applied to a value. -/
abbrev Apply := Application → Document → Search Unit

namespace Dialect

/-- The dialect that the value of a keyword names; of one that names none that is known, the dialect
around counts. -/
def named (around : Dialect) : Document → Except SchemaFault Dialect
  | .scalar (.text address) =>
    ((Address.normal address).mapError .address).map fun normal =>
      (all.find? fun dialect => dialect.address == normal).getD around
  | .scalar s =>
    if (Document.scalar s).isVoid then .ok around else (Document.scalar s).misused (.asked "decode")
  | other => other.misused .key

/-- The dialect of a schema in surroundings of a dialect. -/
def ofSchema (around : Dialect) (schema : Document) : Except SchemaFault Dialect :=
  match schema with
  | .scalar (.flag _) => .ok around
  | .mapping _ =>
    match schema.field? "$schema" with
    | some value => around.named value
    | none => .ok around
  | .list items =>
    if items.any fun item => item.sameValue (.ofText "$schema") then schema.misused .opened
    else .ok around
  | .scalar (.text text) =>
    if 1 < (text.splitOn "$schema").length then schema.misused .opened else .ok around
  | other => other.misused .searched

end Dialect

namespace Application

/-! ### Kinds -/

/-- Whether a value is of a kind, given by its name; `unknown` is the fault of a kind that is not
known. -/
def isOfKind (a : Application) (d kind : Document) (unknown : SchemaFault) : Except SchemaFault Bool :=
  match kind with
  | .scalar (.text name) =>
    match a.dialect.kindNamed? name with
    | some k => .ok (a.dialect.admits k d)
    | none => .error unknown
  | .scalar _ => .error unknown
  | other => other.misused .key

/-- Whether a value is of one of some kinds. -/
def isOfSomeKind (a : Application) (d : Document) (unknown : Document → SchemaFault) :
    List Document → Except SchemaFault Bool
  | [] => .ok false
  | kind :: rest => do
    if ← a.isOfKind d kind (unknown kind) then return true else isOfSomeKind a d unknown rest

/-- The kinds of a keyword, which may be a single one. -/
def kindsOf : Document → Except SchemaFault (List Document)
  | .scalar (.text kind) => .ok [.ofText kind]
  | kinds => kinds.held

/-- Whether a value is not of a kind that the schema asks for; it is not of any if none is asked for. -/
def mismatch (a : Application) (d : Document) : Except SchemaFault Bool :=
  match a.schema.field? "type" with
  | some kinds => do return !(← a.isOfSomeKind d .unrankedKind (← kindsOf kinds))
  | none => .ok true

/-! ### Violations -/

/-- Adds the violation of a keyword by a value that comes from the violations of alternatives. -/
def reportFrom (a : Application) (context : List Violation) (keyword : String) (d : Document)
    (breach : Breach) : Search Unit :=
  if breach.shownParts.any Document.hasLongNumber then throw .longNumber
  else Search.add ⟨[], [], some keyword, a.schema, d, a.mismatch d, breach, context⟩

/-- Adds the violation of a keyword by a value. -/
def report (a : Application) (keyword : String) (d : Document) (breach : Breach) : Search Unit :=
  a.reportFrom [] keyword d breach

/-- Adds the violation of the schema that refuses everything. -/
def refuse (d : Document) : Search Unit :=
  if d.hasLongNumber then throw .longNumber
  else Search.add ⟨[], [], none, .ofFlag false, d, .ok true, .refused d, []⟩

/-! ### Schemas inside a schema -/

/-- A schema inside the schema, with the addresses from which its references are read. -/
def inner (a : Application) (resolver : Resolver) (schema : Document) : Except SchemaFault Application :=
  (a.dialect.ofSchema schema).map fun dialect =>
    { a with around := a.dialect, dialect, resolver, schema }

/-- The keywords of a schema that is applied, with their values; a flag has none. -/
def keywords (a : Application) : Except SchemaFault (List (String × Document)) :=
  match a.schema with
  | .mapping fields =>
    let all := fields.map fun (key, value) => (key.plainText, value)
    let inForce :=
      match a.around.hasLoneReferences, a.schema.field? "$ref" with
      | true, some (.scalar .null) | true, none | false, _ => all
      | true, some reference => [("$ref", reference)]
    .ok (inForce.filter fun (keyword, _) => a.dialect.knows keyword)
  | .scalar (.flag _) => .ok []
  | other => other.misused (.asked (if a.around.hasLoneReferences then "get" else "items"))

/-- A schema inside the schema by itself; where it names itself plays no part. -/
def alone (a : Application) (schema : Document) : Except SchemaFault Application := do
  let b ← a.inner a.resolver schema
  let b := { b with around := b.dialect }
  let _ ← b.keywords
  return b

/-- The violation of a schema inside a schema, by a part of a value. A key that stands for nothing is no
step. -/
def underSteps (step schemaStep : Option Scalar) (v : Violation) : Violation :=
  { v with
    place := step.toList.filter (· != .null) ++ v.place
    schemaPlace := schemaStep.toList ++ v.schemaPlace }

/-- Applies a schema from which references are read in a known way. -/
def descendAt (a : Application) (apply : Apply) (resolver : Resolver) (schema d : Document)
    (step schemaStep : Option Scalar) : Search Unit :=
  match schema with
  | .scalar (.flag true) => return ()
  | .scalar (.flag false) => refuse d
  | _ => do
    Search.changed (underSteps step schemaStep) (apply (← Search.get (a.inner resolver schema)) d)

/-- Applies a schema inside the schema to a value or a part of it. -/
def descend (a : Application) (apply : Apply) (schema d : Document)
    (step schemaStep : Option Scalar) : Search Unit :=
  match schema with
  | .scalar (.flag true) => return ()
  | .scalar (.flag false) => refuse d
  | _ => do
    let name ← Search.get (a.dialect.nameOf? schema)
    a.descendAt apply (← Search.get (a.resolver.inside name)) schema d step schemaStep

/-- Whether a value follows a schema inside the schema by itself. -/
def accepts (a : Application) (apply : Apply) (schema d : Document) : Search Bool :=
  match schema with
  | .scalar (.flag true) => return true
  | .scalar (.flag false) => Search.isEmpty (refuse d)
  | _ => do Search.isEmpty (apply (← Search.get (a.alone schema)) d)

/-! ### Values of keywords -/

/-- The fields of the value of a keyword. -/
def fieldsOf (value : Document) : Search (List (String × Document)) :=
  match value with
  | .mapping fields => return fields.map fun (key, part) => (key.plainText, part)
  | other => Search.get (other.misused (.asked "items"))

/-- The items of the value of a keyword. -/
def itemsOf (value : Document) : Search (List Document) :=
  Search.get value.held

/-- The number of items of the value of a keyword. -/
def countOf (value : Document) : Search Nat :=
  match value with
  | .list items => return items.length
  | .mapping fields => return fields.length
  | .scalar (.text s) => return s.length
  | other => Search.get (other.misused .counted)

/-- The bound that the value of a keyword is, for something of a kind that lies on a side of it, or at
it. -/
def boundOf (side : Side) (orEqual : Bool) (kind : String) (value : Document) : Search Number :=
  match value.amount? with
  | some n => return n
  | none => throw (.unordered (.kinds side orEqual kind value.longKindName))

/-- Whether a key meets the expression with a source. -/
def matchesKey (source : String) (key : Scalar) : Search Bool := do
  let e ← Search.get ((Expression.ofText source).mapError .expression)
  match key with
  | .text name => return e.meets name
  | other => Search.get ((Document.scalar other).misused .matched)

/-- Whether a mapping has a key. -/
def hasKey (d key : Document) : Search Bool :=
  match d, key with
  | .mapping fields, .scalar s => return fields.any fun f => f.1.sameKey s
  | _, .scalar _ => return false
  | _, other => Search.get (other.misused .key)

/-- Whether a value holds a key: as a key, as an item, or inside a text. -/
def holdsKey (d : Document) (key : Scalar) : Search Bool :=
  match d, key with
  | .mapping fields, _ => return fields.any fun f => f.1.sameKey key
  | .list items, _ =>
    return items.any fun
      | .scalar s => s.sameKey key
      | _ => false
  | .scalar (.text s), .text part => return part.isEmpty || 1 < (s.splitOn part).length
  | .scalar (.text _), other => Search.get ((Document.scalar other).misused .found)
  | other, _ => Search.get (other.misused .searched)

/-- The texts that a value holds, to be put together. -/
def textsOf (value : Document) : Search (List String) :=
  match value.held with
  | .error _ => Search.get (value.misused .joined)
  | .ok parts =>
    parts.zipIdx.mapM fun (part, index) =>
      match part with
      | .scalar (.text s) => return s
      | other => Search.get (other.misused (.joinedItem index))

end Application

end Codebook
