import Codebook.Number.Shortest

/-!
# Multiples

Whether a number is a multiple of a unit. A whole unit is compared exactly; of a unit with a fraction the
rounded quotient counts, and only where the quotient lies beyond all numbers the exact one. Numbers that
have no quotient of that kind are told apart by why there is none.
-/

namespace Codebook.Number

/-- Why two numbers have no quotient. -/
inductive RatioFault where
  /-- A whole number lies beyond the numbers with a fraction. -/
  | tooLarge
  | endless
  | notANumber
  | wholeByZero
  | remainderByZero
  | byZero
deriving Repr, DecidableEq

namespace RatioFault

/-- The message of a fault. -/
def message : RatioFault → String
  | tooLarge => "int too large to convert to float"
  | endless => "cannot convert Infinity to integer ratio"
  | notANumber => "cannot convert float NaN to integer"
  | wholeByZero => "integer modulo by zero"
  | remainderByZero => "float modulo"
  | byZero => "float division by zero"

end RatioFault

/-- A number as one with a fraction. -/
def toReal : Number → Except RatioFault Binary64
  | whole n =>
    match Binary64.ofInt n with
    | .infinite _ => .error .tooLarge
    | x => .ok x
  | real x => .ok x

/-- The magnitude of a finite number as a quotient of whole numbers. -/
def magnitude? : Number → Option (Nat × Nat)
  | whole n => some (n.natAbs, 1)
  | real (.finite _ significand exponent) => some (Binary64.quotient significand exponent)
  | real _ => none

/-- Whether the quotient of two numbers is exactly a whole number. -/
def isExactMultiple (x unit : Number) : Bool :=
  match x.magnitude?, unit.magnitude? with
  | some (n, m), some (n', m') => n' != 0 && n * m' % (m * n') == 0
  | _, _ => false

/-- Whether a number is zero. -/
def isZero (x : Number) : Bool := x.toInt? == some 0

/-- Whether a number is a multiple of a unit. -/
def isMultiple (x unit : Number) : Except RatioFault Bool :=
  match x, unit with
  | whole _, whole n => if n == 0 then .error .wholeByZero else .ok (x.isExactMultiple unit)
  | real _, whole n =>
    if n == 0 then .error .remainderByZero
    else (unit.toReal).map fun y => x.isExactMultiple (real y)
  | _, real y => do
    let x' ← x.toReal
    if unit.isZero then .error .byZero
    match x'.ratio y with
    | .infinite _ => if x.magnitude?.isNone then .error .endless else .ok (x.isExactMultiple unit)
    | .notANumber => .error .notANumber
    | quotient => .ok quotient.toInt?.isSome

end Codebook.Number
