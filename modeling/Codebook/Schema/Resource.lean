import Codebook.Schema.Address
import Codebook.Schema.Metaschema

/-!
# Resources and references

A resource is a schema with an address: the whole schema, a schema inside it that names itself, or one of
the descriptions of the dialects. A reference is read from the address around it and leads to a resource,
to the part of one at the end of steps, or to an anchor, which is a name inside a resource. Some anchors are
dynamic: they stand for the anchor of the same name in the outermost resource on the way to the reference
that has one.
-/

namespace Codebook

/-! ## Resources -/

/-- A schema of a dialect. -/
structure Resource where
  contents : Document
  dialect : Dialect

/-- A schema, itself or inside another one, with the address of the resource that it belongs to. -/
structure Located where
  address : String
  resource : Resource
  /-- Whether the address is its own. -/
  isNamed : Bool
  /-- The anchors at it, each with whether it is dynamic. -/
  anchors : List (String × Bool)

/-- The schemas that a reference may lead to. -/
structure Registry where
  address : String
  root : Resource
  /-- The schemas inside the root, unless something else stands where a schema has to be. -/
  entries : Except SchemaFault (List Located)

namespace Resource

/-- A schema inside a schema of a dialect; it may name another one. -/
def inDialect (around : Dialect) (contents : Document) : Except SchemaFault Resource :=
  match contents.field? "$schema" with
  | none | some (.scalar .null) => .ok ⟨contents, around⟩
  | some (.scalar (.text address)) =>
    .ok ⟨contents, (Dialect.at? (Dialect.withoutSigns address)).getD around⟩
  | some other => other.misused (.asked "rstrip")

/-- The address that a resource gives itself. -/
def name? (r : Resource) : Option String :=
  match r.dialect.nameOf? r.contents with
  | .ok name => name
  | .error _ => none

/-- The name of the anchor that an address is if it is a mere fragment. -/
def fragmentUnder? (contents : Document) (keyword : String) : Except SchemaFault (Option String) :=
  match contents.field? keyword with
  | none => .ok none
  | some (.scalar (.text s)) =>
    .ok (if s.startsWith "#" then some (String.ofList (s.toList.drop 1)) else none)
  | some other => other.misused (.asked "startswith")

/-- The name of the anchor under a keyword; a value that is no text may be there, and is none. -/
def anchorUnder? (contents : Document) (keyword : String) : Except SchemaFault (Option String) :=
  match contents.field? keyword with
  | some (.scalar (.text s)) => .ok (some s)
  | none | some (.scalar _) => .ok none
  | some other => other.misused .key

/-- The anchors at a schema, each with whether it is dynamic. -/
def anchors (r : Resource) : Except SchemaFault (List (String × Bool)) := do
  let fixed (name? : Option String) : List (String × Bool) := (name?.map fun s => (s, false)).toList
  match r.dialect with
  | .draft3 | .draft4 =>
    if r.contents.isMapping then return fixed (← fragmentUnder? r.contents "id")
    else r.contents.misused (.asked "get")
  | .draft6 | .draft7 => return fixed (← fragmentUnder? r.contents "$id")
  | .draft2019 => return fixed (← anchorUnder? r.contents "$anchor")
  | .draft2020 =>
    let plain ← anchorUnder? r.contents "$anchor"
    let dynamic ← anchorUnder? r.contents "$dynamicAnchor"
    return fixed plain ++ (dynamic.map fun s => (s, true)).toList

/-- The address of a schema that may give itself one, where an address is around it. -/
def addressFrom (around : String) (name? : Option String) : Except SchemaFault String :=
  match name? with
  | some name => (Address.joined around name).mapError .address
  | none => .ok around

/-- A schema and the schemas inside it, up to a depth, with the addresses of their resources. -/
def entriesFrom (depth : Nat) (address : String) (r : Resource) : Except SchemaFault (List Located) :=
  match depth with
  | 0 => .ok []
  | depth + 1 => do
    let name ← r.dialect.nameOf? r.contents
    let here ← addressFrom address name
    let anchors ← r.anchors
    let parts ← (← r.dialect.positions.schemasIn r.contents).mapM (inDialect r.dialect)
    let inside ← parts.reverse.mapM (entriesFrom depth here)
    return ⟨here, r, name.isSome, anchors⟩ :: inside.flatten

/-- A schema and the schemas inside it, with the addresses of their resources. -/
def entries (address : String) (r : Resource) : Except SchemaFault (List Located) :=
  entriesFrom (r.contents.depth + 1) address r

end Resource

namespace Registry

/-- The registry of a schema; its address is its own, or empty. -/
def ofRoot (root : Resource) : Registry :=
  let address := root.name?.getD ""
  ⟨address, root, root.entries address⟩

/-- The schemas of the descriptions of the dialects. -/
def standard : List Located :=
  Metaschema.resources.flatMap fun (address, dialect, d) =>
    match Resource.entries address ⟨d, dialect⟩ with
    | .ok entries => entries
    | .error _ => []

/-- The resource at an address. -/
def resource? (registry : Registry) (address : String) : Except SchemaFault (Option Resource) :=
  if address == registry.address then .ok registry.root
  else
    match Metaschema.resources.lookup address with
    | some (dialect, d) => .ok (some ⟨d, dialect⟩)
    | none =>
      registry.entries.map fun entries =>
        (entries.reverse.find? fun e => e.isNamed && e.address == address).map Located.resource

/-- The schema with an anchor among schemas, and whether the anchor is dynamic. -/
def anchorIn? (entries : List Located) (address name : String) : Option (Resource × Bool) :=
  entries.reverse.findSome? fun e =>
    if e.address == address then (e.anchors.reverse.lookup name).map fun b => (e.resource, b)
    else none

/-- The schema with an anchor in the resource at an address, and whether the anchor is dynamic. -/
def anchorAt? (registry : Registry) (address name : String) :
    Except SchemaFault (Option (Resource × Bool)) :=
  match anchorIn? standard address name with
  | some found => .ok (some found)
  | none => registry.entries.map fun entries => anchorIn? entries address name

/-- The schema with an anchor in a resource at an address, which may have another address of its own. -/
def anchor (registry : Registry) (resource : Resource) (isKeyword : Bool) (address name : String) :
    Except SchemaFault (Resource × Bool) := do
  if let some found ← registry.anchorAt? address name then return found
  if let some own := resource.name? then
    if let some found ← registry.anchorAt? own name then return found
  throw (.reference isKeyword
    (if name.toList.contains '/' then .badAnchor name else .noAnchor name resource.contents))

end Registry

/-! ## References -/

/-- Where a reference stands: the address around it, and the addresses on the way to it. -/
structure Resolver where
  base : String
  /-- The addresses that references led away from, the last one first. -/
  previous : List String
deriving Repr, DecidableEq

/-- Where a reference leads. -/
structure Resolved where
  contents : Document
  resolver : Resolver

namespace Resolver

/-- Inside a schema that may give itself an address. -/
def inside (r : Resolver) (name? : Option String) : Except SchemaFault Resolver :=
  (Resource.addressFrom r.base name?).map fun base => { r with base }

/-- After a reference to a resource. -/
def moved (r : Resolver) (address : String) : Resolver :=
  let isLeft := !r.base.isEmpty && (r.previous.isEmpty || address != r.base)
  ⟨address, if isLeft then r.base :: r.previous else r.previous⟩

/-! ### Steps -/

/-- A step in which a tilde with a digit stands for a slash or a tilde. -/
def stepText (step : String) : String :=
  (step.replace "~1" "/").replace "~0" "~"

/-- The item of a list with a number; a negative number counts from the end. -/
def itemAt? {α : Type} (items : List α) (index : Int) : Option α :=
  let place := if index < 0 then index + items.length else index
  place.toNat?.bind fun n => items[n]?

/-- The part at the end of a step; there may be none. -/
def partAt (d : Document) (step : String) : Except SchemaFault (Scalar × Option Document) :=
  let index : Except SchemaFault Int := (Text.readWhole 10 step).mapError .step
  match d with
  | .list items => index.map fun n => (.number (.whole n), itemAt? items n)
  | .scalar (.text s) =>
    index.map fun n =>
      (.number (.whole n), (itemAt? s.toList n).map fun c => .ofText (String.ofList [c]))
  | .mapping fields =>
    let name := stepText step
    .ok (.text name, Keyed.get? fields (.text name))
  | other => other.misused .opened

/-- Goes the steps from a part of a resource; `gone` holds the steps since the last schema with an
address, and `whole` is the text of all steps. -/
def walk (resource : Resource) (isKeyword : Bool) (whole : String) (r : Resolver) (gone : List Scalar)
    (d : Document) : List String → Except SchemaFault Resolved
  | [] => .ok ⟨d, r⟩
  | step :: rest => do
    let (key, part?) ← partAt d step
    match part? with
    | none => .error (.reference isKeyword (.nowhere whole resource.contents))
    | some part =>
      let gone := gone ++ [key]
      let name ←
        if resource.dialect.positions.leadInside part.isMapping gone then resource.dialect.nameOf? part
        else .ok none
      let r ← r.inside name
      walk resource isKeyword whole r (if name.isSome then [] else gone) part rest

/-! ### Anchors -/

/-- The schema that a dynamic anchor stands for: that of the outermost resource on the way. -/
def outermost (registry : Registry) (name : String) (found : Resource) :
    List String → Except SchemaFault Resource
  | [] => .ok found
  | address :: rest => do
    match ← registry.anchorAt? address name with
    | some (resource, true) => outermost registry name resource rest
    | _ => outermost registry name found rest

/-- Where an anchor in a resource leads. -/
def toAnchor (registry : Registry) (resource : Resource) (isKeyword : Bool) (address name : String)
    (r : Resolver) : Except SchemaFault Resolved := do
  let (found, isDynamic) ← registry.anchor resource isKeyword address name
  let after := r.moved address
  if isDynamic then
    let last ← outermost registry name found after.previous
    return ⟨last.contents, ← after.inside (← last.dialect.nameOf? last.contents)⟩
  else return ⟨found.contents, after⟩

/-! ### References -/

/-- Where a reference leads. -/
def follow (registry : Registry) (isKeyword : Bool) (r : Resolver) (reference : String) :
    Except SchemaFault Resolved := do
  let (address, fragment) ←
    if reference.startsWith "#" then pure (r.base, String.ofList (reference.toList.drop 1))
    else
      ((Address.joined r.base reference).bind Address.withoutFragment).mapError .address
  match ← registry.resource? address with
  | none => throw (.reference isKeyword (.unresolvable reference))
  | some resource =>
    if fragment.startsWith "/" then
      let steps := (Address.unescaped (String.ofList (fragment.toList.drop 1))).splitOn "/"
      walk resource isKeyword fragment (r.moved address) [] resource.contents steps
    else if fragment.isEmpty then return ⟨resource.contents, r.moved address⟩
    else toAnchor registry resource isKeyword address fragment r

/-- Whether a schema is one that recursive references go beyond. -/
def isRecursive (d : Document) : Bool :=
  (d.field? "$recursiveAnchor").any fun value => !value.isVoid

/-- Goes on along addresses as long as recursive references go beyond what is found. -/
def followBack (registry : Registry) (r : Resolver) (found : Resolved) :
    List String → Except SchemaFault Resolved
  | [] => .ok found
  | address :: rest => do
    let next ← r.follow registry false address
    if isRecursive next.contents then followBack registry r next rest else return found

/-- Where a recursive reference leads: to the outermost resource on the way, as long as all resources
between are recursive. -/
def followRecursive (registry : Registry) (r : Resolver) : Except SchemaFault Resolved := do
  let found ← r.follow registry false "#"
  if isRecursive found.contents then followBack registry r found r.previous else return found

end Resolver

end Codebook
