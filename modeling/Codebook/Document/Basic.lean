import Codebook.Document.Moment
import Codebook.Keyed
import Codebook.Number.Shortest
import Codebook.Text.Quoted

/-!
# Documents

The values that a configuration or a schema file holds: scalars, lists, pairs, sets, and mappings whose
keys are scalars. A value may also be one of the collections that it stands in. `shown` is the form in
which messages quote a value. Two scalars are the same key when they are equal as numbers, a truth value
counting as one or zero, or else when they are equal.
-/

namespace Codebook

/-- A value without parts. -/
inductive Scalar where
  | null
  | flag (value : Bool)
  | number (value : Number)
  | text (value : String)
  | bytes (values : List Nat)
  | date (day : Day)
  | moment (moment : Moment)
deriving Repr, DecidableEq

/-- The forms of collections that may hold themselves. -/
inductive Shape where
  | list
  | mapping
  | pair
deriving Repr, DecidableEq

/-- A value of a configuration or schema file. -/
inductive Document where
  | scalar (value : Scalar)
  | list (items : List Document)
  | mapping (fields : List (Scalar × Document))
  | pair (first second : Document)
  | set (items : List Scalar)
  /-- A collection that the value stands in; `levels` other ones lie between the two. -/
  | enclosing (levels : Nat) (shape : Shape)

namespace Scalar

/-- A byte inside the form of bytes in messages. -/
def shownByte (quote : Char) (n : Nat) : List Char :=
  let c := Char.ofNat n
  if c == quote || c == '\\' then ['\\', c]
  else if c == '\n' then ['\\', 'n']
  else if c == '\r' then ['\\', 'r']
  else if c == '\t' then ['\\', 't']
  else if 0x20 ≤ n && n < 0x7F then [c]
  else '\\' :: 'x' :: Text.hexDigits 2 n

/-- The form of bytes in messages. -/
def shownBytes (values : List Nat) : String :=
  let quote := Text.quoteFor (values.map Char.ofNat)
  String.ofList ('b' :: quote :: values.flatMap (shownByte quote) ++ [quote])

/-- The form of a scalar in messages. -/
def shown : Scalar → String
  | null => "None"
  | flag value => if value then "True" else "False"
  | number value => value.text
  | text value => Text.quoted value
  | bytes values => shownBytes values
  | date day => day.shown
  | moment m => m.shown

/-- The plain text of a scalar. -/
def plainText : Scalar → String
  | text value => value
  | date day => day.text
  | moment m => m.text
  | other => other.shown

/-- The word for the kind of a scalar in messages. -/
def kindName : Scalar → String
  | null => "NoneType"
  | flag _ => "bool"
  | number (.whole _) => "int"
  | number (.real _) => "float"
  | text _ => "str"
  | bytes _ => "bytes"
  | date _ => "date"
  | moment _ => "datetime"

/-- The longer word for the kind of a scalar, which says where the kind comes from. -/
def longKindName : Scalar → String
  | date _ => "datetime.date"
  | moment _ => "datetime.datetime"
  | other => other.kindName

/-- The scalar with a truth value or a number without a fraction written as a whole number. -/
def asKey : Scalar → Scalar
  | flag value => number (.whole (if value then 1 else 0))
  | number n => number ((n.toInt?.map .whole).getD n)
  | other => other

/-- Whether two scalars are the same key. -/
def sameKey (a b : Scalar) : Bool :=
  match a, b with
  | moment m, moment n => m.isSame n
  | _, _ => a.asKey == b.asKey

end Scalar

namespace Shape

/-- The word for a shape in messages. -/
def kindName : Shape → String
  | list => "list"
  | mapping => "dict"
  | pair => "tuple"

/-- The form in messages of a collection in which it stands itself. -/
def shown : Shape → String
  | list => "[...]"
  | mapping => "\x7b...\x7d"
  | pair => "(...)"

end Shape

namespace Document

instance : Inhabited Document := ⟨.scalar .null⟩

/-- The document of a text. -/
def ofText (s : String) : Document := .scalar (.text s)

/-- The document of a truth value. -/
def ofFlag (b : Bool) : Document := .scalar (.flag b)

/-- The document of a whole number. -/
def ofInt (n : Int) : Document := .scalar (.number (.whole n))

/-- The empty value. -/
def null : Document := .scalar .null

/-- The mapping of texts to documents. -/
def ofFields (fields : List (String × Document)) : Document :=
  .mapping (fields.map fun f => (.text f.1, f.2))

/-- The word for the kind of a document in messages. -/
def kindName : Document → String
  | .scalar s => s.kindName
  | .list _ => "list"
  | .mapping _ => "dict"
  | .pair .. => "tuple"
  | .set _ => "set"
  | .enclosing _ shape => shape.kindName

/-- The longer word for the kind of a document, which says where the kind comes from. -/
def longKindName : Document → String
  | .scalar s => s.longKindName
  | other => other.kindName

/-- The document under a key of a mapping that is a text. -/
def field? (d : Document) (name : String) : Option Document :=
  match d with
  | .mapping fields => Keyed.get? fields (.text name)
  | _ => none

/-- Whether a document is empty in the way that an absent one is. -/
def isVoid : Document → Bool
  | .scalar .null => true
  | .scalar (.flag value) => !value
  | .scalar (.number value) => value.toInt? == some 0
  | .scalar (.text value) => value.isEmpty
  | .scalar (.bytes values) => values.isEmpty
  | .scalar (.date _) => false
  | .scalar (.moment _) => false
  | .list items => items.isEmpty
  | .mapping fields => fields.isEmpty
  | .pair .. => false
  | .set items => items.isEmpty
  | .enclosing .. => false

/-- The number that a document counts as; a truth value counts as one or zero. -/
def amount? : Document → Option Number
  | .scalar (.number n) => some n
  | .scalar (.flag value) => some (.whole (if value then 1 else 0))
  | _ => none

/-- The fields of a mapping with a value put under a key: a key that is the same stays as it is. -/
def putField (fields : List (Scalar × Document)) (key : Scalar) (value : Document) :
    List (Scalar × Document) :=
  match fields with
  | [] => [(key, value)]
  | p :: rest => if p.1.sameKey key then (p.1, value) :: rest else p :: putField rest key value

/-- The items of a set with one more, unless it is the same as one of them. -/
def putItem (items : List Scalar) (item : Scalar) : List Scalar :=
  if items.any (·.sameKey item) then items else items ++ [item]

/-! ## The form in messages -/

mutual

/-- The form of a document in messages. -/
def shown : Document → String
  | .scalar s => s.shown
  | .list items => "[" ++ ", ".intercalate (shownItems items) ++ "]"
  | .mapping fields => "\x7b" ++ ", ".intercalate (shownFields fields) ++ "\x7d"
  | .pair first second => "(" ++ first.shown ++ ", " ++ second.shown ++ ")"
  | .set [] => "set()"
  | .set items => "\x7b" ++ ", ".intercalate (items.map Scalar.shown) ++ "\x7d"
  | .enclosing _ shape => shape.shown

/-- The forms of the items of a list. -/
def shownItems : List Document → List String
  | [] => []
  | d :: rest => d.shown :: shownItems rest

/-- The forms of the fields of a mapping. -/
def shownFields : List (Scalar × Document) → List String
  | [] => []
  | (key, d) :: rest => (key.shown ++ ": " ++ d.shown) :: shownFields rest

end

end Document

end Codebook
