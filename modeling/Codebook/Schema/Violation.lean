import Codebook.Schema.Dialect

/-!
# Breaches and violations

A breach is a way in which a document breaks a schema, a violation a breach at a place. The violation that
is reported is the one with the shortest place, among places of one length the greatest, on one place a
breach of a keyword about alternatives last, then one at a value of the wrong kind first, and otherwise the
first that is found. Steps of different kinds have no order, so there may be nothing to report. A breach
of alternatives stands for the deepest of their own violations, unless two of these rank alike.
-/

namespace Codebook

/-! ## Breaches -/

/-- What is counted of a document. -/
inductive Measure where
  | characters
  | items
  | fields
deriving Repr, DecidableEq

/-- The measure of a document, if it has it. -/
def Measure.of? (measure : Measure) (d : Document) : Option Nat :=
  match measure, d with
  | characters, .scalar (.text s) => some s.length
  | items, .list all => some all.length
  | fields, .mapping all => some all.length
  | _, _ => none

/-- How a document breaks a schema. -/
inductive Breach where
  | refused (value : Document)
  | wrongKind (value : Document) (allowed : List Document)
  | tooSmall (value : Document) (measure : Measure) (bound : Document)
  | tooGreat (value : Document) (measure : Measure) (bound : Document)
  | below (value : Document) (isStrict : Bool) (bound : Document)
  | above (value : Document) (isStrict : Bool) (bound : Document)
  | noMultiple (value unit : Document)
  | noMatch (value : Document) (source : String)
  | noForm (value : Document) (form : String)
  | notListed (value values : Document)
  | notExactly (value : Document)
  | unknownKeys (keys : List Scalar)
  | unmatchedKeys (keys : List Scalar) (sources : List String)
  | missingKey (key : Document)
  | missingCompanion (name : String) (companion : Document)
  | restItems (most : Nat) (rest : List Document)
  | moreItems (rest : List Document)
  | holdsNone (value : Document)
  | holdsTooFew (least : Document) (count : Nat)
  | holdsTooMany (most : Document)
  | noneFollows (value : Document)
  | repetition (value : Document)
  | underNone (value : Document)
  | underSeveral (value : Document) (schemas : List Document)
  | notExcluded (value schema : Document)
  | disallowed (value kind : Document)
  /-- Items that no keyword is about. -/
  | loneItems (items : List Document)
  /-- Keys that no keyword is about; there may be a schema that their values break. -/
  | loneKeys (keys : List Scalar) (hasSchema : Bool)

namespace Breach

/-- Texts with commas between them. -/
def listed (texts : List String) : String :=
  ", ".intercalate texts

/-- What there is, which is or are not expected. -/
def unexpected (texts : List String) : String :=
  "(" ++ listed texts ++ (if texts.length == 1 then " was" else " were") ++ " unexpected)"

/-- Whether a bound is a whole number. -/
def isBound (bound : Document) (n : Int) : Bool :=
  (bound.amount?.bind Number.toInt?) == some n

/-- What is said of a measure below its bound. -/
def smallText (measure : Measure) (bound : Document) : String :=
  if isBound bound 1 then "should be non-empty"
  else if measure == .fields then "does not have enough properties"
  else "is too short"

/-- What is said of a measure above its bound. -/
def greatText (measure : Measure) (bound : Document) : String :=
  if isBound bound 0 then "is expected to be empty"
  else if measure == .fields then "has too many properties"
  else "is too long"

/-- The message of a breach. -/
def message : Breach → String
  | refused value => "False schema does not allow " ++ value.shown
  | wrongKind value allowed =>
    value.shown ++ " is not of type " ++ listed (allowed.map Document.shown)
  | tooSmall value measure bound => value.shown ++ " " ++ smallText measure bound
  | tooGreat value measure bound => value.shown ++ " " ++ greatText measure bound
  | below value isStrict bound =>
    value.shown ++ " is less than " ++ (if isStrict then "or equal to " else "") ++ "the minimum of "
      ++ bound.shown
  | above value isStrict bound =>
    value.shown ++ " is greater than " ++ (if isStrict then "or equal to " else "")
      ++ "the maximum of " ++ bound.shown
  | noMultiple value unit => value.shown ++ " is not a multiple of " ++ unit.shown
  | noMatch value source => value.shown ++ " does not match " ++ Text.quoted source
  | noForm value form => value.shown ++ " is not a " ++ Text.quoted form
  | notListed value values => value.shown ++ " is not one of " ++ values.shown
  | notExactly value => value.shown ++ " was expected"
  | unknownKeys keys =>
    "Additional properties are not allowed " ++ unexpected (keys.map Scalar.shown)
  | unmatchedKeys keys sources =>
    listed (keys.map Scalar.shown) ++ (if keys.length == 1 then " does" else " do")
      ++ " not match any of the regexes: " ++ listed (sources.map Text.quoted)
  | missingKey key => key.shown ++ " is a required property"
  | missingCompanion name companion =>
    companion.shown ++ " is a dependency of " ++ Text.quoted name
  | restItems most rest =>
    let shown :=
      match rest with
      | [item] => item.shown
      | _ => (Document.list rest).shown
    "Expected at most " ++ toString most ++ (if most == 1 then " item" else " items") ++ " but found "
      ++ toString rest.length ++ " extra: " ++ shown
  | moreItems rest => "Additional items are not allowed " ++ unexpected (rest.map Document.shown)
  | holdsNone value => value.shown ++ " does not contain items matching the given schema"
  | holdsTooFew least count =>
    "Too few items match the given schema (expected at least " ++ least.shown ++ " but only "
      ++ toString count ++ " matched)"
  | holdsTooMany most =>
    "Too many items match the given schema (expected at most " ++ most.shown ++ ")"
  | noneFollows value => "None of " ++ value.shown ++ " are valid under the given schema"
  | repetition value => value.shown ++ " has non-unique elements"
  | underNone value => value.shown ++ " is not valid under any of the given schemas"
  | underSeveral value schemas =>
    value.shown ++ " is valid under each of " ++ listed (schemas.map Document.shown)
  | notExcluded value schema => value.shown ++ " should not be valid under " ++ schema.shown
  | disallowed value kind => kind.shown ++ " is disallowed for " ++ value.shown
  | loneItems items => "Unevaluated items are not allowed " ++ unexpected (items.map Document.shown)
  | loneKeys keys hasSchema =>
    (if hasSchema then "Unevaluated properties are not valid under the given schema "
      else "Unevaluated properties are not allowed ") ++ unexpected (keys.map Scalar.shown)

/-- The parts of the document that the message of a breach shows. -/
def shownParts : Breach → List Document
  | refused value | wrongKind value _ | tooSmall value .. | tooGreat value .. | below value ..
  | above value .. | noMultiple value _ | noMatch value _ | noForm value _ | notListed value _
  | holdsNone value | noneFollows value | repetition value | underNone value | underSeveral value _
  | notExcluded value _ | disallowed value _ => [value]
  | unknownKeys keys | unmatchedKeys keys _ | loneKeys keys _ => keys.map .scalar
  | restItems _ rest | moreItems rest | loneItems rest => rest
  | notExactly _ | missingKey _ | missingCompanion .. | holdsTooFew .. | holdsTooMany _ => []

end Breach

/-! ## Violations -/

/-- A breach with its place. -/
structure Violation where
  /-- The steps from the document to the value that breaks the schema. -/
  place : List Scalar
  /-- The steps from the whole schema to the keyword. -/
  schemaPlace : List Scalar
  /-- The keyword, unless a schema refuses everything. -/
  keyword : Option String
  schema : Document
  value : Document
  /-- Whether the value is not of a kind that its schema asks for. -/
  mismatch : Except SchemaFault Bool
  breach : Breach
  /-- The violations of the alternatives. -/
  context : List Violation

namespace Violation

/-- Whether the keyword is about alternatives. -/
def isWeak (v : Violation) : Bool :=
  v.keyword == some "anyOf" || v.keyword == some "oneOf"

/-- The standing of a violation among those on the same place. -/
def standing (v : Violation) : Except SchemaFault Nat :=
  v.mismatch.map fun isMismatch => (if v.isWeak then 0 else 2) + (if isMismatch then 1 else 0)

/-- Whether a violation ranks on a side of another. -/
def lies (side : Side) (v w : Violation) : Except SchemaFault Bool :=
  if v.place.length != w.place.length then
    .ok (compare w.place.length v.place.length == side.order)
  else
    match Scalar.firstDifference? v.place w.place with
    | some (a, b) => (a.lies side b).mapError .unordered
    | none => do return compare (← v.standing) (← w.standing) == side.order

/-- Whether two violations rank alike. -/
def ranksAlike (v w : Violation) : Bool :=
  v.place.length == w.place.length && (Scalar.firstDifference? v.place w.place).isNone
    && match v.standing, w.standing with
      | .ok n, .ok m => n == m
      | _, _ => false

/-- The greater one of two violations, the first one if they rank alike. -/
def greater (best v : Violation) : Except SchemaFault Violation := do
  let _ ← v.standing
  return if ← v.lies .above best then v else best

/-! ## The least violations -/

/-- A violation with its number and what stands for it. -/
abbrev Numbered := Nat × Violation × Except SchemaFault Violation

/-- Whether one of several violations ranks below another; of two that rank alike, the first. -/
def precedes (v w : Numbered) : Except SchemaFault Bool :=
  if v.2.1.ranksAlike w.2.1 then .ok (v.1 < w.1) else v.2.1.lies .below w.2.1

/-- The two least of some violations, the greater one in front; `pair` holds those of the ones before. -/
def leastPair (pair : Numbered × Numbered) : List Numbered → Except SchemaFault (Numbered × Numbered)
  | [] => .ok pair
  | v :: rest => do
    let _ ← v.2.1.standing
    if !v.2.1.ranksAlike pair.1.2.1 && (← v.2.1.lies .below pair.1.2.1) then
      leastPair (if ← precedes pair.2 v then (v, pair.2) else (pair.2, v)) rest
    else leastPair pair rest

/-- The two least of at least two violations, the least one first. -/
def leastTwo (v w : Numbered) (rest : List Numbered) : Except SchemaFault (Numbered × Numbered) := do
  let _ ← v.2.1.standing
  let _ ← w.2.1.standing
  let isBelow ← precedes w v
  if rest.isEmpty then return if isBelow then (w, v) else (v, w)
  let (high, low) ← leastPair (if isBelow then (v, w) else (w, v)) rest
  return if ← precedes low high then (low, high) else (high, low)

/-- What stands for the least of some violations, unless another one ranks alike. -/
def leastAlone? : List Numbered → Except SchemaFault (Option Violation)
  | [] => .ok none
  | [v] => do
    let _ ← v.2.1.standing
    return some (← v.2.2)
  | v :: w :: rest => do
    let (least, next) ← leastTwo v w rest
    if least.2.1.ranksAlike next.2.1 then return none else return some (← least.2.2)

mutual

/-- The violation that stands for another: of alternatives, the deepest of their violations. -/
def innermost : Violation → Except SchemaFault Violation
  | ⟨place, schemaPlace, keyword, schema, value, mismatch, breach, context⟩ => do
    return (← leastAlone? (numbered 0 context)).getD
      ⟨place, schemaPlace, keyword, schema, value, mismatch, breach, context⟩

/-- Violations with their numbers and what stands for each. -/
def numbered (n : Nat) : List Violation → List Numbered
  | [] => []
  | v :: rest => (n, v, v.innermost) :: numbered (n + 1) rest

end

/-- The violation that is reported; a fault may end the violations that are found. -/
def reported (found : List Violation) (fault? : Option SchemaFault) :
    Except SchemaFault (Option Violation) := do
  match found with
  | [] =>
    if let some fault := fault? then throw fault
    return none
  | v :: rest =>
    let _ ← v.standing
    let best ← rest.foldlM greater v
    if let some fault := fault? then throw fault
    return some (← best.innermost)

/-! ## Violations in full -/

/-- A place in a whole: the steps between brackets. -/
def placeText (whole : String) (place : List Scalar) : String :=
  whole ++ String.join (place.map fun step => "[" ++ step.shown ++ "]")

/-- What is said of a violation of a schema by the document that describes another schema. -/
def fullMessage (v : Violation) : String :=
  v.breach.message ++ "\n\nFailed validating " ++ Text.quoted (v.keyword.getD "") ++ " in "
    ++ placeText "metaschema" v.schemaPlace.dropLast ++ ":\n    " ++ SchemaFault.indented v.schema.layout
    ++ "\n\nOn " ++ placeText "schema" v.place ++ ":\n    " ++ SchemaFault.indented v.value.layout

end Violation

end Codebook
