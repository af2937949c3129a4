/-!
# Keyed lists

Pairs of a key and a value in the order in which the keys first came. Putting a value under a key that
is already there replaces the value and leaves the key in its place.
-/

namespace Codebook

/-- Values under keys, in the order of the keys' first insertion. -/
abbrev Keyed (κ α : Type) := List (κ × α)

namespace Keyed

variable {κ α : Type} [DecidableEq κ]

/-- The value under a key. -/
def get? (pairs : Keyed κ α) (key : κ) : Option α :=
  (pairs.find? fun p => p.1 == key).map Prod.snd

/-- Whether a key is there. -/
def has (pairs : Keyed κ α) (key : κ) : Bool :=
  pairs.any fun p => p.1 == key

/-- The pairs with `value` under `key`. -/
def put : Keyed κ α → κ → α → Keyed κ α
  | [], key, value => [(key, value)]
  | p :: rest, key, value => if p.1 == key then (key, value) :: rest else p :: put rest key value

/-- The pairs with each pair of a second list put in turn. -/
def putAll (pairs : Keyed κ α) (more : List (κ × α)) : Keyed κ α :=
  more.foldl (fun all p => put all p.1 p.2) pairs

/-- The keyed list of pairs that may repeat a key. -/
def ofList (pairs : List (κ × α)) : Keyed κ α :=
  putAll [] pairs

end Keyed

end Codebook
