import Codebook.Schema.Applicator

/-!
# What no keyword is about

Which items and keys of a value some keyword of a schema is about, the keywords of the schemas that it
applies to the same value included. What is left is unevaluated, and there are keywords for it. The two
dialects that have them differ in how they find out.
-/

namespace Codebook.Application

/-- How many schemas may be gone through one inside the other. -/
def depthLimit : Nat := 490

/-- Whether a document is a flag. -/
def isFlag : Document → Bool
  | .scalar (.flag _) => true
  | _ => false

/-- The schemas that the references of a schema lead to. -/
def referred (a : Application) (schema : Document) : Search (List Resolved) := do
  let follow (keyword : String) : Search (List Resolved) :=
    match schema.field? keyword with
    | none | some (.scalar .null) => return []
    | some (.scalar (.text reference)) => do
      return [← Search.get (a.resolver.follow a.registry false reference)]
    | some other => Search.get (other.misused (.asked "startswith"))
  let plain ← follow "$ref"
  if a.dialect == .draft2020 then return plain ++ (← follow "$dynamicRef")
  else if (schema.field? "$recursiveRef").isSome then
    return plain ++ [← Search.get (a.resolver.followRecursive a.registry)]
  else return plain

/-- The schemas inside a schema that a value follows and that are about the same value: a condition with
what depends on it, and alternatives. -/
def followed (a : Application) (apply : Apply) (schema d : Document) : Search (List Document) := do
  let branch (name : String) : List Document := (schema.field? name).toList
  let conditional ←
    match schema.field? "if" with
    | none => pure []
    | some condition => do
      if ← a.accepts apply condition d then pure (condition :: branch "then")
      else pure (branch "else")
  let alternatives ← ["allOf", "oneOf", "anyOf"].mapM fun keyword =>
    match schema.field? keyword with
    | none => return []
    | some schemas => do
      (← itemsOf schemas).filterM fun part => Search.isEmpty (a.descend apply part d none none)
  return conditional ++ alternatives.flatten

/-! ## Items -/

/-- The numbers of the items that a keyword of the schema itself is about. -/
def ownIndexes (a : Application) (apply : Apply) (schema d : Document) : Search (List Nat) := do
  let count := d.items.length
  let prefixed ←
    match schema.field? "prefixItems" with
    | some schemas => if a.dialect == .draft2020 then countOf schemas else pure 0
    | none => pure 0
  let leading ←
    match schema.field? "items" with
    | none => pure prefixed
    | some schemas =>
      if a.dialect == .draft2020 || (schema.field? "additionalItems").isSome || schemas.isMapping then
        pure count
      else countOf schemas
  let held ← ["contains", "unevaluatedItems"].mapM fun keyword =>
    match schema.field? keyword with
    | none => return []
    | some part => do
      return (← d.items.zipIdx.filterM fun (item, _) => a.accepts apply part item).map Prod.snd
  return List.range leading ++ held.flatten

/-- The numbers of the items that some keyword is about. -/
def evaluatedIndexes (apply : Apply) (depth : Nat) (a : Application) (schema d : Document) :
    Search (List Nat) :=
  match depth with
  | 0 => throw .endless
  | depth + 1 => do
    if isFlag schema then return []
    if !schema.isMapping then Search.get (schema.misused (.asked "get"))
    let referred ← (← a.referred schema).mapM fun found => do
      let b ← Search.get (a.inner found.resolver found.contents)
      evaluatedIndexes apply depth { b with around := b.dialect } found.contents d
    let own ← a.ownIndexes apply schema d
    let inside ← (← a.followed apply schema d).mapM fun part => evaluatedIndexes apply depth a part d
    return referred.flatten ++ own ++ inside.flatten

/-- The keyword about items that no other keyword is about. -/
def applyToLoneItems (a : Application) (apply : Apply) (d : Document) : Search Unit := do
  if d.isList then
    let evaluated ← evaluatedIndexes apply depthLimit a a.schema d
    let lone := (d.items.zipIdx.filter fun (_, index) => !evaluated.contains index).map Prod.fst
    if !lone.isEmpty then a.report "unevaluatedItems" d (.loneItems lone)

/-! ## Keys -/

/-- The keys of a value that a keyword about fields is about. -/
def keysUnder (a : Application) (apply : Apply) (schema d : Document) (keyword : String) :
    Search (List Scalar) := do
  let keys := d.fields.map Prod.fst
  match schema.field? keyword with
  | none => return []
  | some value =>
    if a.dialect == .draft2020 && keyword != "properties" then
      return (← d.fields.filterM fun (_, part) =>
        Search.isEmpty (a.descend apply value part none none)).map Prod.fst
    else
      match value with
      | .mapping fields => return keys.filter fun key => fields.any fun f => f.1.sameKey key
      | .scalar (.flag true) => return if a.dialect == .draft2020 then [] else keys
      | _ => return []

/-- The keys of a value that meet an expression of a schema. -/
def keysMatching (schema d : Document) : Search (List Scalar) :=
  match schema.field? "patternProperties" with
  | none => return []
  | some patterns => do
    let sources := (← fieldsOf patterns).map Prod.fst
    let keys ← d.fields.mapM fun (key, _) => do
      return (← sources.filterM fun source => matchesKey source key).map fun _ => key
    return keys.flatten

/-- The schemas that a schema asks for because of a key of the value. -/
def dependentSchemas (schema d : Document) : Search (List Document) :=
  match schema.field? "dependentSchemas" with
  | none => return []
  | some schemas => do
    return ((← fieldsOf schemas).filter fun f => (d.field? f.1).isSome).map Prod.snd

/-- The keys that some keyword is about. -/
def evaluatedKeys (apply : Apply) (depth : Nat) (a : Application) (schema d : Document) :
    Search (List Scalar) :=
  match depth with
  | 0 => throw .endless
  | depth + 1 => do
    if isFlag schema then return []
    if !schema.isMapping then Search.get (schema.misused (.asked "get"))
    let referred ← (← a.referred schema).mapM fun found => do
      let b ← Search.get (a.inner found.resolver found.contents)
      evaluatedKeys apply depth { b with around := b.dialect } found.contents d
    let own ← ["properties", "additionalProperties", "unevaluatedProperties"].mapM
      (a.keysUnder apply schema d)
    let matching ← keysMatching schema d
    let parts := (← dependentSchemas schema d) ++ (← a.followed apply schema d)
    let inside ← parts.mapM fun part => evaluatedKeys apply depth a part d
    return referred.flatten ++ own.flatten ++ matching ++ inside.flatten

/-- The keyword about keys that no other keyword is about. -/
def applyToLoneKeys (a : Application) (apply : Apply) (value d : Document) : Search Unit := do
  if d.isMapping then
    let evaluated ← evaluatedKeys apply depthLimit a a.schema d
    let lone := d.fields.filter fun (key, _) => !evaluated.any fun k => k.sameKey key
    let breaking ← lone.mapM fun (key, part) => do
      return (← Search.gathered (a.descend apply value part none none)).map fun _ => key
    let keys := breaking.flatten
    if !keys.isEmpty then
      match value with
      | .scalar (.flag false) =>
        a.report "unevaluatedProperties" d
          (.loneKeys (keys.mergeSort fun k l => !(l.plainText < k.plainText)) false)
      | _ => a.report "unevaluatedProperties" d (.loneKeys keys true)

end Codebook.Application
