import Codebook.Schema.Assertion

/-!
# Keywords with schemas

The keywords that hold schemas and apply them to a value, to its items or to the values under its keys.
The dialects differ in what is said of items, of keys that need others, and of kinds, which the oldest
dialect describes by schemas too.
-/

namespace Codebook.Application

/-- The number of an item or of a schema as a step. -/
def stepOf (index : Nat) : Scalar :=
  .number (.whole index)

/-! ## Alternatives -/

/-- Applies schemas one after the other to a value. -/
def applyAll (a : Application) (apply : Apply) (schemas : List Document) (d : Document) :
    Search Unit := do
  for (schema, index) in schemas.zipIdx do
    a.descend apply schema d none (some (stepOf index))

/-- The first of some numbered schemas that a value follows with those after it, or else what the value
violates in all of them; `read` holds the violations so far. -/
def firstFollowed (a : Application) (apply : Apply) (d : Document) (read : List Violation) :
    List (Document × Nat) → Search (Except (List Violation) (Document × List Document))
  | [] => return .error read
  | (schema, index) :: rest => do
    let found ← Search.gathered (a.descend apply schema d none (some (stepOf index)))
    if found.isEmpty then return .ok (schema, rest.map Prod.fst)
    else firstFollowed a apply d (read ++ found) rest

/-- The keyword that asks for one of several schemas to be followed. -/
def applyAny (a : Application) (apply : Apply) (value d : Document) : Search Unit := do
  match ← a.firstFollowed apply d [] (← itemsOf value).zipIdx with
  | .ok _ => return ()
  | .error context => a.reportFrom context "anyOf" d (.underNone d)

/-- The keyword that asks for just one of several schemas to be followed. -/
def applyOne (a : Application) (apply : Apply) (value d : Document) : Search Unit := do
  match ← a.firstFollowed apply d [] (← itemsOf value).zipIdx with
  | .error context => a.reportFrom context "oneOf" d (.underNone d)
  | .ok (first, rest) =>
    let more ← rest.filterM fun schema => a.accepts apply schema d
    if !more.isEmpty then a.report "oneOf" d (.underSeveral d (more ++ [first]))

/-- The keyword that applies one schema or another, as a value follows a third. -/
def applyBranch (a : Application) (apply : Apply) (value d : Document) : Search Unit := do
  let branch := if ← a.accepts apply value d then "then" else "else"
  if let some schema := a.schema.field? branch then
    a.descend apply schema d none (some (.text branch))

/-! ## Fields -/

/-- The keys that no keyword beside names or describes by an expression. -/
def extraKeys (a : Application) (d : Document) : Search (List (Scalar × Document)) := do
  let known := (a.schema.field? "properties").getD (.mapping [])
  let sources ← textsOf ((a.schema.field? "patternProperties").getD (.mapping []))
  let joined := "|".intercalate sources
  d.fields.filterM fun (key, _) => do
    if ← holdsKey known key then return false
    else if joined.isEmpty then return true
    else return !(← matchesKey joined key)

/-- The keyword about keys that no keyword beside it is about. -/
def applyExtra (a : Application) (apply : Apply) (value d : Document) : Search Unit := do
  if d.isMapping then
    let extra ← a.extraKeys d
    if value.isMapping then
      for (key, part) in extra do
        a.descend apply value part (some key) none
    else if value.isVoid && !extra.isEmpty then
      let keys := extra.map Prod.fst
      match a.schema.field? "patternProperties" with
      | some patterns => do
        let keys ← Search.get ((Scalar.sorted keys).mapError .unordered)
        let sources ← textsOf patterns
        a.report "additionalProperties" d
          (.unmatchedKeys keys (sources.mergeSort fun s t => !(t < s)))
      | none =>
        a.report "additionalProperties" d
          (.unknownKeys (keys.mergeSort fun k l => !(l.plainText < k.plainText)))

/-- The keyword about the values under keys. -/
def applyFields (a : Application) (apply : Apply) (value d : Document) : Search Unit := do
  if d.isMapping then
    for (name, schema) in ← fieldsOf value do
      match d.part? name with
      | some part => a.descend apply schema part (some (.text name)) (some (.text name))
      | none =>
        if a.dialect == .draft3 then
          match schema.field? "required" with
          | some isRequired =>
            if !isRequired.isVoid then
              Search.changed (underSteps (some (.text "required")) none)
                (a.report "required" d (.missingKey (.ofText name)))
          | none =>
            if !schema.isMapping then Search.get (schema.misused (.asked "get"))

/-- The keyword about the values under keys that meet an expression. -/
def applyMatching (a : Application) (apply : Apply) (value d : Document) : Search Unit := do
  if d.isMapping then
    for (source, schema) in ← fieldsOf value do
      for (key, part) in d.fields do
        if ← matchesKey source key then
          a.descend apply schema part (some key) (some (.text source))

/-- The keyword about keys. -/
def applyKeys (a : Application) (apply : Apply) (value d : Document) : Search Unit := do
  for (key, _) in d.fields do
    a.descend apply value (.scalar key) none none

/-- The keys that are asked for where there is a key, unless a schema is. -/
def companionsIn? (a : Application) (keyword : String) (dependency : Document) :
    Search (Option (List Document)) :=
  if keyword != "dependencies" then return none
  else
    match a.dialect, dependency with
    | .draft3, .mapping _ => return none
    | .draft3, .scalar (.text _) => return some [dependency]
    | .draft3, _ => do return some (← itemsOf dependency)
    | _, .list companions => return some companions
    | _, _ => return none

/-- The keywords about what else is asked for where there are keys. -/
def applyDependent (a : Application) (apply : Apply) (keyword : String) (value d : Document) :
    Search Unit := do
  if d.isMapping then
    for (name, dependency) in ← fieldsOf value do
      if (d.field? name).isSome then
        match ← a.companionsIn? keyword dependency with
        | some companions => a.askCompanions keyword name companions d
        | none => a.descend apply dependency d none (some (.text name))

/-! ## Items -/

/-- Applies schemas to the items of a list, one to each. -/
def applyEach (a : Application) (apply : Apply) (schemas items : List Document) : Search Unit := do
  for ((item, schema), index) in (items.zip schemas).zipIdx do
    a.descend apply schema item (some (stepOf index)) (some (stepOf index))

/-- Applies a schema to the items of a list from a place on. -/
def applyFrom (a : Application) (apply : Apply) (first : Nat) (schema : Document)
    (items : List Document) : Search Unit := do
  for (item, index) in items.zipIdx.drop first do
    a.descend apply schema item (some (stepOf index)) none

/-- The keyword about items, which in the latest dialect are those that no schema of their own is
for. -/
def applyItems (a : Application) (apply : Apply) (value d : Document) : Search Unit := do
  if d.isList then
    match a.dialect, value with
    | .draft2020, _ =>
      let first ←
        match a.schema.field? "prefixItems" with
        | some schemas => countOf schemas
        | none => pure 0
      let rest := d.items.drop first
      if rest.isEmpty then return ()
      match value with
      | .scalar (.flag false) => a.report "items" d (.restItems first rest)
      | _ => a.applyFrom apply first value d.items
    | _, .list schemas => a.applyEach apply schemas d.items
    | .draft3, _ | .draft4, _ =>
      if value.isMapping then a.applyFrom apply 0 value d.items
      else a.applyEach apply (← itemsOf value) d.items
    | _, _ => a.applyFrom apply 0 value d.items

/-- The keyword about the items that have no schema of their own. -/
def applyRest (a : Application) (apply : Apply) (value d : Document) : Search Unit := do
  let schemas := (a.schema.field? "items").getD (.mapping [])
  if d.isList && !schemas.isMapping then
    let first ← countOf schemas
    if value.isMapping then a.applyFrom apply first value d.items
    else
      let rest := d.items.drop first
      if value.isVoid && !rest.isEmpty then a.report "additionalItems" d (.moreItems rest)

/-- How many of some items follow a schema, as far as there are not more than enough. -/
def countFollowing (a : Application) (apply : Apply) (schema most : Document) (count : Nat) :
    List Document → Search (Except Unit Nat)
  | [] => return .ok count
  | item :: rest => do
    if ← a.accepts apply schema item then
      let bound ← boundOf .above false "int" most
      if isBeyond .above false (.whole ((count : Int) + 1)) bound then return .error ()
      else countFollowing a apply schema most (count + 1) rest
    else countFollowing a apply schema most count rest

/-- The keyword about how many items follow a schema. -/
def applyCounted (a : Application) (apply : Apply) (value d : Document) : Search Unit := do
  if d.isList then
    let items := d.items
    let most := (a.schema.field? "maxContains").getD (.ofInt items.length)
    let least := (a.schema.field? "minContains").getD (.ofInt 1)
    let _ ← Search.get (a.alone value)
    match ← a.countFollowing apply value most 0 items with
    | .error _ => a.report "maxContains" d (.holdsTooMany most)
    | .ok count =>
      if isBeyond .below false (.whole count) (← boundOf .below false "int" least) then
        if count == 0 then a.report "contains" d (.holdsNone d)
        else a.report "minContains" d (.holdsTooFew least count)

/-- Whether one of some items follows a schema. -/
def holdsOne (a : Application) (apply : Apply) (schema : Document) : List Document → Search Bool
  | [] => return false
  | item :: rest => do
    if ← a.accepts apply schema item then return true else holdsOne a apply schema rest

/-- The keyword that asks for an item that follows a schema. -/
def applyHeld (a : Application) (apply : Apply) (value d : Document) : Search Unit := do
  if a.dialect == .draft6 || a.dialect == .draft7 then
    if d.isList && !(← a.holdsOne apply value d.items) then
      a.report "contains" d (.noneFollows d)
  else a.applyCounted apply value d

/-! ## Kinds that are schemas -/

/-- The name by which a message tells a kind. -/
def kindShown (kind : Document) : Document :=
  (kind.field? "name").getD kind

/-- Whether a value is of one of some numbered kinds, each a name or a schema, or else what it violates
in the schemas; `read` holds the violations so far. -/
def firstKind (a : Application) (apply : Apply) (d : Document) (read : List Violation) :
    List (Document × Nat) → Search (Option (List Violation))
  | [] => return some read
  | (kind, index) :: rest => do
    if kind.isMapping then
      let found ← Search.gathered (a.descend apply kind d none (some (stepOf index)))
      if found.isEmpty then return none else firstKind a apply d (read ++ found) rest
    else if ← Search.get (a.isOfKind d kind (.unknownKind kind a.schema d)) then return none
    else firstKind a apply d read rest

/-- The keyword of the oldest dialect that asks for a value of one of some kinds. -/
def applyKinds (a : Application) (apply : Apply) (value d : Document) : Search Unit := do
  let kinds ← Search.get (kindsOf value)
  if let some context ← a.firstKind apply d [] kinds.zipIdx then
    a.reportFrom context "type" d (.wrongKind d (kinds.map kindShown))

/-- The keyword of the oldest dialect that excludes kinds. -/
def applyExcludedKinds (a : Application) (apply : Apply) (value d : Document) : Search Unit := do
  for kind in ← Search.get (kindsOf value) do
    if ← a.accepts apply (.ofFields [("type", .list [kind])]) d then
      a.report "disallow" d (.disallowed d kind)

/-! ## References -/

/-- The keywords that apply the schema at the end of a reference. -/
def applyReference (a : Application) (apply : Apply) (value d : Document) : Search Unit :=
  match value with
  | .scalar (.text reference) => do
    let found ← Search.get (a.resolver.follow a.registry true reference)
    a.descendAt apply found.resolver found.contents d none none
  | other => Search.get (other.misused (.asked "startswith"))

/-- The keyword that applies the schema at the end of a recursive reference. -/
def applyRecursive (a : Application) (apply : Apply) (d : Document) : Search Unit := do
  let found ← Search.get (a.resolver.followRecursive a.registry)
  a.descendAt apply found.resolver found.contents d none none

/-! ## All of them -/

/-- Applies a keyword that holds schemas; other keywords say nothing here. -/
def applyKeyword (a : Application) (apply : Apply) (keyword : String) (value d : Document) :
    Search Unit :=
  match keyword with
  | "$ref" | "$dynamicRef" => a.applyReference apply value d
  | "$recursiveRef" => a.applyRecursive apply d
  | "allOf" => do a.applyAll apply (← itemsOf value) d
  | "anyOf" => a.applyAny apply value d
  | "oneOf" => a.applyOne apply value d
  | "not" => do if ← a.accepts apply value d then a.report "not" d (.notExcluded d value)
  | "if" => a.applyBranch apply value d
  | "properties" => a.applyFields apply value d
  | "patternProperties" => a.applyMatching apply value d
  | "additionalProperties" => a.applyExtra apply value d
  | "propertyNames" => a.applyKeys apply value d
  | "dependencies" | "dependentSchemas" => a.applyDependent apply keyword value d
  | "prefixItems" => do if d.isList then a.applyEach apply (← itemsOf value) d.items
  | "items" => a.applyItems apply value d
  | "additionalItems" => a.applyRest apply value d
  | "contains" => a.applyHeld apply value d
  | "type" => if a.dialect == .draft3 then a.applyKinds apply value d else return ()
  | "disallow" => a.applyExcludedKinds apply value d
  | "extends" =>
    if value.isMapping then a.descend apply value d none none
    else do a.applyAll apply (← itemsOf value) d
  | _ => return ()

end Codebook.Application
