import Codebook.Document.Basic

/-!
# Equal values

Two documents have one value when they are equal as numbers, texts, lists or mappings; a truth value
equals no number. Bytes count as the list of their numbers. Two values that are collections around them
are equal if these lie equally far out.
-/

namespace Codebook

namespace Scalar

/-- Whether two scalars have one value. -/
def sameValue (a b : Scalar) : Bool :=
  match a, b with
  | flag x, flag y => x == y
  | flag _, _ | _, flag _ => false
  | number x, number y => x.order? y == some .eq
  | _, _ => a.sameKey b

end Scalar

namespace Document

/-- Whether a document is a whole number, with a point or without. -/
def isWhole (d : Document) (n : Nat) : Bool :=
  match d with
  | .scalar (.number x) => x.toInt? == some (n : Int)
  | _ => false

/-- Whether documents are these whole numbers. -/
def areWhole : List Document → List Nat → Bool
  | [], [] => true
  | d :: rest, n :: more => d.isWhole n && areWhole rest more
  | _, _ => false

mutual

/-- Whether two documents have one value. -/
def sameValue : Document → Document → Bool
  | .scalar (.bytes values), .list items => areWhole items values
  | .list items, .scalar (.bytes values) => areWhole items values
  | .scalar (.bytes values), .pair first second => areWhole [first, second] values
  | .pair first second, .scalar (.bytes values) => areWhole [first, second] values
  | .scalar a, .scalar b => a.sameValue b
  | .list xs, .list ys => sameItems xs ys
  | .pair a b, .pair c d => a.sameValue c && b.sameValue d
  | .pair a b, .list [c, d] => a.sameValue c && b.sameValue d
  | .list [a, b], .pair c d => a.sameValue c && b.sameValue d
  | .mapping xs, .mapping ys => xs.length == ys.length && sameFields xs ys
  | .set xs, .set ys => xs.length == ys.length && xs.all fun x => ys.any x.sameKey
  | .enclosing n _, .enclosing m _ => n == m
  | _, _ => false

/-- Whether the items of two lists have the same values. -/
def sameItems : List Document → List Document → Bool
  | [], [] => true
  | x :: xs, y :: ys => x.sameValue y && sameItems xs ys
  | _, _ => false

/-- Whether each field of a mapping has the value that it has in another. -/
def sameFields : List (Scalar × Document) → List (Scalar × Document) → Bool
  | [], _ => true
  | (key, value) :: rest, ys =>
    ((ys.find? fun y => y.1.sameKey key).any fun y => value.sameValue y.2) && sameFields rest ys

end

/-- Whether two items of a list have one value. -/
def hasRepetition : List Document → Bool
  | [] => false
  | d :: rest => rest.any d.sameValue || hasRepetition rest

end Document

end Codebook
