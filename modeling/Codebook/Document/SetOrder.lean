import Codebook.Document.Basic

/-!
# The order of sets

A set of numbers shows its items in the order of their places in a table. The place of a number is a
remainder; if it is taken, the places after it are tried, and then another one that the number gives. The
table grows so that much of it stays free. For small whole numbers this is mostly the ascending order.
-/

namespace Codebook.SetOrder

/-! ## Numbers as places -/

/-- The prime that gives the remainders. -/
def prime : Nat := Nat.pow 2 61 - 1

/-- What stands for the numbers beyond the finite ones. -/
def endlessResidue : Nat := 314159

/-- The residue of a magnitude with a sign, as a number of 64 bits; minus one is not used. -/
def signed (negative : Bool) (residue : Nat) : Nat :=
  if !negative || residue == 0 then residue
  else Nat.pow 2 64 - (if residue == 1 then 2 else residue)

/-- The residue of a number: equal numbers have the same. -/
def residue? : Number → Option Nat
  | .whole n => some (signed (n < 0) (n.natAbs % prime))
  | .real (.finite negative significand exponent) =>
    some (signed negative (significand * Nat.pow 2 (exponent % 61).toNat % prime))
  | .real (.infinite negative) => some (signed negative endlessResidue)
  | .real .notANumber => none

/-! ## Tables -/

/-- A table with items at some of its places, each with its residue. -/
abbrev Table := Array (Option (Nat × Scalar))

/-- How many places after one are tried. -/
def tries : Nat := 9

/-- The free place for an item from a place on; `residue` is what is left of its residue. -/
def freePlace (table : Table) (fuel residue place : Nat) : Nat :=
  let count := if place + tries < table.size then tries + 1 else 1
  let isFree (p : Nat) : Bool := (table[p]?.bind id).isNone
  match fuel, (List.range' place count).find? isFree with
  | _, some free => free
  | 0, none => place
  | fuel + 1, none =>
    freePlace table fuel (residue / 32) ((place * 5 + 1 + residue / 32) % table.size)

/-- A table with one more item. -/
def put (table : Table) (item : Nat × Scalar) : Table :=
  let place := freePlace table (table.size + 16) item.1 (item.1 % table.size)
  table.setIfInBounds place (some item)

/-- The items of a table in the order of their places. -/
def itemsOf (table : Table) : List (Nat × Scalar) :=
  table.toList.filterMap id

/-- A free table with more places than a number; their number is a power of two. -/
def tableAbove (n : Nat) : Table :=
  Array.replicate (max 8 (Nat.pow 2 (n.log2 + 1))) none

/-- The items of a table in a table with more places than a number. -/
def moved (table : Table) (n : Nat) : Table :=
  (itemsOf table).foldl put (tableAbove n)

/-- Whether as many items are too many for a table. -/
def isCrowded (table : Table) (count : Nat) : Bool :=
  (table.size - 1) * 3 ≤ count * 5

/-- A table with one more item, and more places if it is crowded then. -/
def add (table : Table) (item : Nat × Scalar) : Table :=
  let table := put table item
  let count := (itemsOf table).length
  if isCrowded table count then moved table (count * 4) else table

/-! ## Sets -/

/-- An item with its residue, if it is a number. -/
def withResidue? (s : Scalar) : Option (Nat × Scalar) :=
  match s.asKey with
  | .number n => (residue? n).map fun residue => (residue, s)
  | _ => none

/-- The items of a set in the order in which they are shown; items that are not all numbers stay in
theirs. -/
def arranged (items : List Scalar) : List Scalar :=
  match items.mapM withResidue? with
  | none => items
  | some numbers =>
    let table := tableAbove 0
    let table := if isCrowded table items.length then tableAbove (items.length * 2) else table
    (itemsOf (numbers.foldl add table)).map Prod.snd

end Codebook.SetOrder
