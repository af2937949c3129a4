import Codebook.Schema.Search

/-!
# Keywords about a value

The keywords that hold no schema: what kind a value is of, how large it is, what it is equal to, which
expression it meets, and which keys it has. A keyword about values of one kind is met by every value of
another kind.
-/

namespace Codebook.Application

/-! ## Numbers -/

/-- Whether a number lies on a side of a bound, or is the bound where it is strict. -/
def isBeyond (side : Side) (isStrict : Bool) (n bound : Number) : Bool :=
  n.order? bound == some side.order || (isStrict && n.order? bound == some .eq)

/-- The keywords that bound a number. -/
def boundNumber (a : Application) (keyword : String) (side : Side) (isStrict : Bool)
    (value d : Document) : Search Unit := do
  if let .scalar (.number n) := d then
    let bound ← boundOf side isStrict d.longKindName value
    if isBeyond side isStrict n bound then
      match side with
      | .below => a.report keyword d (.below d isStrict value)
      | .above => a.report keyword d (.above d isStrict value)

/-- Whether a bound is strict because a keyword beside it says so, as in the oldest dialects. -/
def isStrictBy (a : Application) (keyword : String) : Bool :=
  (a.dialect == .draft3 || a.dialect == .draft4)
    && (a.schema.field? keyword).any fun value => !value.isVoid

/-- The keywords that ask for a multiple of a number. -/
def askMultiple (a : Application) (keyword : String) (value d : Document) : Search Unit := do
  if let .scalar (.number n) := d then
    match value.amount? with
    | some unit =>
      if !(← Search.get ((n.isMultiple unit).mapError .ratio)) then
        a.report keyword d (.noMultiple d value)
    | none => Search.get (value.misused (.divisor d.longKindName))

/-! ## Sizes -/

/-- The keywords that bound a measure of a value. -/
def boundMeasure (a : Application) (keyword : String) (side : Side) (measure : Measure)
    (value d : Document) : Search Unit := do
  if let some size := measure.of? d then
    let bound ← boundOf side false "int" value
    if isBeyond side false (.whole size) bound then
      match side with
      | .below => a.report keyword d (.tooSmall d measure value)
      | .above => a.report keyword d (.tooGreat d measure value)

/-! ## Texts -/

/-- The keyword that asks a text to meet an expression. -/
def askPattern (a : Application) (value d : Document) : Search Unit := do
  if let .scalar (.text s) := d then
    match value with
    | .scalar (.text source) =>
      let e ← Search.get ((Expression.ofText source).mapError .expression)
      if !e.meets s then a.report "pattern" d (.noMatch d source)
    | .scalar other => Search.get ((Document.scalar other).misused .read)
    | other => Search.get (other.misused .key)

/-- The keyword that asks a text to be in a format; of the formats, only that of expressions counts. -/
def askFormat (a : Application) (value d : Document) : Search Unit :=
  match value, d with
  | .scalar (.text "regex"), .scalar (.text s) =>
    if !a.hasFormats then return ()
    else
      match Expression.ofText s with
      | .ok _ => return ()
      | .error fault =>
        if fault.isMalformed then a.report "format" d (.noForm d "regex") else throw (.expression fault)
  | _, _ => return ()

/-! ## Kinds and values -/

/-- The keyword that asks for a value of one of some kinds. -/
def askKind (a : Application) (value d : Document) : Search Unit := do
  let kinds ← Search.get (kindsOf value)
  let unknown (kind : Document) : SchemaFault := .unknownKind kind a.schema d
  if !(← Search.get (a.isOfSomeKind d unknown kinds)) then
    a.report "type" d (.wrongKind d kinds)

/-- The keyword that lists the values. -/
def askListed (a : Application) (value d : Document) : Search Unit := do
  if !(← itemsOf value).any d.sameValue then a.report "enum" d (.notListed d value)

/-- The keyword that asks for items that are not equal. -/
def askDistinct (a : Application) (value d : Document) : Search Unit :=
  match d with
  | .list items =>
    if !value.isVoid && Document.hasRepetition items then a.report "uniqueItems" d (.repetition d)
    else return ()
  | _ => return ()

/-! ## Keys -/

/-- The keyword that asks for keys. -/
def askKeys (a : Application) (value d : Document) : Search Unit := do
  if d.isMapping then
    for key in ← itemsOf value do
      if !(← hasKey d key) then a.report "required" d (.missingKey key)

/-- Asks for keys where there is a key. -/
def askCompanions (a : Application) (keyword name : String) (companions : List Document)
    (d : Document) : Search Unit := do
  for key in companions do
    if !(← hasKey d key) then a.report keyword d (.missingCompanion name key)

/-- The keyword that asks for keys where there are others. -/
def askDependent (a : Application) (value d : Document) : Search Unit := do
  if d.isMapping then
    for (name, companions) in ← fieldsOf value do
      if (d.field? name).isSome then
        a.askCompanions "dependentRequired" name (← itemsOf companions) d

/-! ## All of them -/

/-- Applies a keyword that holds no schema; other keywords say nothing here. -/
def assert (a : Application) (keyword : String) (value d : Document) : Search Unit :=
  match keyword with
  | "minimum" => a.boundNumber keyword .below (a.isStrictBy "exclusiveMinimum") value d
  | "maximum" => a.boundNumber keyword .above (a.isStrictBy "exclusiveMaximum") value d
  | "exclusiveMinimum" => a.boundNumber keyword .below true value d
  | "exclusiveMaximum" => a.boundNumber keyword .above true value d
  | "multipleOf" | "divisibleBy" => a.askMultiple keyword value d
  | "minLength" => a.boundMeasure keyword .below .characters value d
  | "maxLength" => a.boundMeasure keyword .above .characters value d
  | "minItems" => a.boundMeasure keyword .below .items value d
  | "maxItems" => a.boundMeasure keyword .above .items value d
  | "minProperties" => a.boundMeasure keyword .below .fields value d
  | "maxProperties" => a.boundMeasure keyword .above .fields value d
  | "pattern" => a.askPattern value d
  | "format" => a.askFormat value d
  | "type" => if a.dialect == .draft3 then return () else a.askKind value d
  | "enum" => a.askListed value d
  | "const" => if d.sameValue value then return () else a.report keyword d (.notExactly value)
  | "uniqueItems" => a.askDistinct value d
  | "required" => a.askKeys value d
  | "dependentRequired" => a.askDependent value d
  | _ => return ()

end Codebook.Application
