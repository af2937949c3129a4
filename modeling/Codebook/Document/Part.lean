import Codebook.Document.Basic

/-!
# Parts of documents

The items of a list and the fields of a mapping as values of their own. A part may stand for a collection
around it. Taken out, it holds that collection in its place, in which the part itself stands for what is
then around it. So the parts of a document without such references are what they were.
-/

namespace Codebook.Document

/-- The shape of a document as a collection. -/
def shape : Document → Shape
  | .mapping _ => .mapping
  | .pair .. => .pair
  | .enclosing _ shape => shape
  | _ => .list

/-- Whether a document is a mapping. -/
def isMapping : Document → Bool
  | .mapping _ | .enclosing _ .mapping => true
  | _ => false

/-- Whether a document is a list. -/
def isList : Document → Bool
  | .list _ | .enclosing _ .list => true
  | _ => false

mutual

/-- How deep the parts of a document lie inside each other. -/
def depth : Document → Nat
  | .list items => depthOfItems items + 1
  | .mapping fields => depthOfFields fields + 1
  | .pair first second => max first.depth second.depth + 1
  | _ => 0

/-- The greatest depth of the items of a list. -/
def depthOfItems : List Document → Nat
  | [] => 0
  | d :: rest => max d.depth (depthOfItems rest)

/-- The greatest depth of the fields of a mapping. -/
def depthOfFields : List (Scalar × Document) → Nat
  | [] => 0
  | (_, d) :: rest => max d.depth (depthOfFields rest)

end

/-! ## Filling in -/

mutual

/-- The document with the references that lead just out of it replaced; `whole` tells by what, from how
deep a reference lies. -/
def filled (whole : Nat → Document) (depth : Nat) : Document → Document
  | .scalar s => .scalar s
  | .set items => .set items
  | .list items => .list (filledItems whole (depth + 1) items)
  | .mapping fields => .mapping (filledFields whole (depth + 1) fields)
  | .pair first second => .pair (first.filled whole (depth + 1)) (second.filled whole (depth + 1))
  | .enclosing levels shape => if levels == depth then whole depth else .enclosing levels shape

/-- The items of a list with such references replaced. -/
def filledItems (whole : Nat → Document) (depth : Nat) : List Document → List Document
  | [] => []
  | d :: rest => d.filled whole depth :: filledItems whole depth rest

/-- The fields of a mapping with such references replaced. -/
def filledFields (whole : Nat → Document) (depth : Nat) :
    List (Scalar × Document) → List (Scalar × Document)
  | [] => []
  | (key, d) :: rest => (key, d.filled whole depth) :: filledFields whole depth rest

end

/-- A part as a value of its own; `around` puts a value in the place of the part. -/
def takenFrom (around : Document → Document) (part : Document) : Document :=
  part.filled (fun depth => around (if depth == 0 then part else .enclosing depth part.shape)) 0

/-! ## Parts -/

/-- The items of a list or a pair as values of their own. -/
def items : Document → List Document
  | .list items => items.zipIdx.map fun (item, index) =>
      item.takenFrom fun inner => .list (items.set index inner)
  | .pair first second =>
    [first.takenFrom (.pair · second), second.takenFrom (.pair first ·)]
  | _ => []

/-- The fields of a mapping as values of their own. -/
def fields : Document → List (Scalar × Document)
  | .mapping fields => fields.zipIdx.map fun ((key, value), index) =>
      (key, value.takenFrom fun inner => .mapping (fields.set index (key, inner)))
  | _ => []

/-- The value under a text as a value of its own. -/
def part? (d : Document) (name : String) : Option Document :=
  Keyed.get? d.fields (.text name)

end Codebook.Document
