import Codebook.Document.Layout
import Codebook.Document.LongNumber
import Codebook.Document.Order
import Codebook.Expression.Basic
import Codebook.Number.Multiple
import Codebook.Schema.Address

/-!
# Faults of schemas

Why a schema says nothing about a document, neither that it is followed nor that it is broken. Either the
schema holds a value of the wrong kind where the value is used, or a reference leads nowhere, or a
comparison, an expression, an address or a number is at fault.
-/

namespace Codebook

/-! ## Misuse of values -/

/-- What a value is used for. -/
inductive Use where
  /-- Something is looked for in it. -/
  | searched
  /-- It is looked for in a text. -/
  | found
  /-- Its items are gone through. -/
  | listed
  | counted
  /-- It is asked for a member of this name. -/
  | asked (member : String)
  /-- A part is taken out of it by a name. -/
  | opened
  | key
  /-- It is compared with an expression. -/
  | matched
  /-- It is read as an expression. -/
  | read
  /-- Its items are put together to a text. -/
  | joined
  /-- It is the item with a number among those put together to a text. -/
  | joinedItem (index : Nat)
  /-- It divides a number of a kind. -/
  | divisor (dividend : String)
deriving Repr, DecidableEq

/-- A use that a value of a kind is not fit for. -/
structure Misuse where
  use : Use
  kind : String
deriving Repr, DecidableEq

namespace Misuse

/-- The message of a misuse. -/
def message : Misuse → String
  | ⟨.searched, kind⟩ => "argument of type '" ++ kind ++ "' is not iterable"
  | ⟨.found, kind⟩ => "'in <string>' requires string as left operand, not " ++ kind
  | ⟨.listed, kind⟩ => "'" ++ kind ++ "' object is not iterable"
  | ⟨.counted, kind⟩ => "object of type '" ++ kind ++ "' has no len()"
  | ⟨.asked member, kind⟩ => "'" ++ kind ++ "' object has no attribute '" ++ member ++ "'"
  | ⟨.opened, "str"⟩ => "string indices must be integers, not 'str'"
  | ⟨.opened, "list"⟩ => "list indices must be integers or slices, not str"
  | ⟨.opened, kind⟩ => "'" ++ kind ++ "' object is not subscriptable"
  | ⟨.key, kind⟩ => "unhashable type: '" ++ kind ++ "'"
  | ⟨.read, _⟩ => "first argument must be string or compiled pattern"
  | ⟨.joined, _⟩ => "can only join an iterable"
  | ⟨.joinedItem index, kind⟩ =>
    "sequence item " ++ toString index ++ ": expected str instance, " ++ kind ++ " found"
  | ⟨.divisor dividend, kind⟩ =>
    "unsupported operand type(s) for %: '" ++ dividend ++ "' and '" ++ kind ++ "'"
  | ⟨.matched, "bytes"⟩ => "cannot use a string pattern on a bytes-like object"
  | ⟨.matched, kind⟩ => "expected string or bytes-like object, got '" ++ kind ++ "'"

end Misuse

/-! ## References -/

/-- Why a reference leads nowhere. -/
inductive ReferenceFault where
  /-- There is no resource at its address. -/
  | unresolvable (reference : String)
  /-- The resource does not have a part at the end of the steps. -/
  | nowhere (steps : String) (resource : Document)
  | noAnchor (name : String) (resource : Document)
  /-- The name holds a slash, which the name of an anchor does not. -/
  | badAnchor (name : String)

namespace ReferenceFault

/-- The word for the kind of a fault. -/
def kindName : ReferenceFault → String
  | unresolvable _ => "Unresolvable"
  | nowhere .. => "PointerToNowhere"
  | noAnchor .. => "NoSuchAnchor"
  | badAnchor _ => "InvalidAnchor"

/-- The message of a fault. -/
def message : ReferenceFault → String
  | unresolvable reference => reference
  | nowhere steps resource =>
    Text.quoted steps ++ " does not exist within " ++ resource.shown
      ++ if steps == "/" then
          ". The pointer '/' is a valid JSON Pointer but it points to an empty string property ''. "
            ++ "If you intended to point to the entire resource, you should use '#'."
        else ""
  | noAnchor name resource => Text.quoted name ++ " does not exist within " ++ resource.shown
  | badAnchor name =>
    "'#" ++ name ++ "' is not a valid anchor, neither as a plain name anchor nor as a JSON Pointer. "
      ++ "You may have intended to use '#/" ++ name
      ++ "', as the slash is required *before each segment* of a JSON pointer."

end ReferenceFault

/-! ## Faults -/

/-- Why a schema cannot be applied to a document. -/
inductive SchemaFault where
  | misuse (cause : Misuse)
  | unordered (cause : Unordered)
  | expression (cause : ExpressionFault)
  | ratio (cause : Number.RatioFault)
  /-- A step into a list is not the number of an item. -/
  | step (cause : Text.NumeralError)
  | address (cause : HostFault)
  /-- A reference that a keyword follows, or one that is followed to find out what keywords are about. -/
  | reference (isKeyword : Bool) (cause : ReferenceFault)
  /-- A schema asks for a kind that its dialect does not know. -/
  | unknownKind (kind schema value : Document)
  /-- A violation is ranked by a kind that its dialect does not know. -/
  | unrankedKind (kind : Document)
  /-- A number is too long for a message. -/
  | longNumber
  /-- Schemas are applied one inside the other without end. -/
  | endless

namespace SchemaFault

/-- The lines of a text, each after the first behind four blanks. -/
def indented (text : String) : String :=
  text.replace "\n" "\n    "

/-- The message of a fault. -/
def message : SchemaFault → String
  | misuse cause => cause.message
  | unordered cause => cause.message
  | expression cause => cause.message
  | ratio cause => cause.message
  | step cause => cause.message
  | address cause => cause.message
  | reference isKeyword cause =>
    if isKeyword then cause.kindName ++ ": " ++ cause.message else cause.message
  | unknownKind kind schema value =>
    "Unknown type " ++ kind.shown ++ " for validator with schema:\n    " ++ indented schema.layout
      ++ "\n\nWhile checking instance:\n    " ++ indented value.layout
  | unrankedKind kind => "Type " ++ kind.shown ++ " is unknown to this type checker"
  | longNumber => longNumberMessage
  | endless => "maximum recursion depth exceeded"

end SchemaFault

namespace Document

/-- A value of the wrong kind for a use. -/
def misused {α : Type} (d : Document) (use : Use) : Except SchemaFault α :=
  .error (.misuse ⟨use, d.longKindName⟩)

/-- What a value holds one after the other: items, keys or characters. -/
def held (d : Document) : Except SchemaFault (List Document) :=
  match d with
  | .list items => .ok items
  | .mapping fields => .ok (fields.map fun f => .scalar f.1)
  | .scalar (.text s) => .ok (s.toList.map fun c => .ofText (String.ofList [c]))
  | other => other.misused .listed

/-- The values under the keys of a mapping. -/
def values (d : Document) : Except SchemaFault (List Document) :=
  match d with
  | .mapping fields => .ok (fields.map Prod.snd)
  | other => other.misused (.asked "values")

end Document

end Codebook
