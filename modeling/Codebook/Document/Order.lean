import Codebook.Document.Basic

/-!
# The order of scalars

Numbers, texts, bytes, days and moments have an order each, and scalars of different kinds have none.
Whether one scalar lies above or below another may therefore be unknown; the reason for it names the sign
that was asked about.
-/

namespace Codebook

/-- The sides on which one scalar may lie of another. -/
inductive Side where
  | above
  | below
deriving Repr, DecidableEq

/-- Two scalars that have no order. -/
inductive Unordered where
  /-- Scalars of these kinds, of which the first was thought to lie on a side of the second, or also to be
  equal to it. -/
  | kinds (side : Side) (orEqual : Bool) (first second : String)
  | dayAndMoment
  /-- Moments of which only one has a known distance from universal time. -/
  | offsets
deriving Repr, DecidableEq

namespace Side

/-- The sign of a side. -/
def sign : Side → String
  | above => ">"
  | below => "<"

/-- The order in which a first thing lies on a side of a second. -/
def order : Side → Ordering
  | above => .gt
  | below => .lt

end Side

namespace Unordered

/-- The message of scalars without an order. -/
def message : Unordered → String
  | kinds side orEqual first second =>
    "'" ++ side.sign ++ (if orEqual then "=" else "") ++ "' not supported between instances of '"
      ++ first ++ "' and '" ++ second ++ "'"
  | dayAndMoment => "can't compare datetime.datetime to datetime.date"
  | offsets => "can't compare offset-naive and offset-aware datetimes"

end Unordered

namespace Scalar

/-- Whether one scalar lies on a side of another. -/
def lies (side : Side) (a b : Scalar) : Except Unordered Bool :=
  match a.asKey, b.asKey with
  | number x, number y => .ok (x.order? y == some side.order)
  | text x, text y => .ok (compare x y == side.order)
  | bytes x, bytes y => .ok (compare x y == side.order)
  | date x, date y => .ok (compare x.ordinal y.ordinal == side.order)
  | moment x, moment y =>
    if x.offset.isSome == y.offset.isSome then .ok (compare x.reckoned y.reckoned == side.order)
    else .error .offsets
  | date _, moment _ | moment _, date _ => .error .dayAndMoment
  | _, _ => .error (.kinds side false a.longKindName b.longKindName)

/-- The first steps in which two places differ. -/
def firstDifference? : List Scalar → List Scalar → Option (Scalar × Scalar)
  | a :: as, b :: bs => if a.sameKey b then firstDifference? as bs else some (a, b)
  | _, _ => none

/-- Puts a scalar into scalars in descending order, before those that are not above it. -/
def inserted (a : Scalar) : List Scalar → Except Unordered (List Scalar)
  | [] => .ok [a]
  | b :: rest => do
    if ← a.lies .below b then return b :: (← inserted a rest)
    else return a :: b :: rest

/-- Scalars in ascending order. -/
def sorted (scalars : List Scalar) : Except Unordered (List Scalar) :=
  (scalars.foldlM (fun read a => inserted a read) []).map List.reverse

end Scalar

end Codebook
