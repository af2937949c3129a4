/-!
# Binary numbers of 64 bits

Floating-point numbers with a significand of 53 bits, held as exact whole numbers: a finite number is
a significand times a power of two. Reading a decimal takes the nearest such number, and of two
equally near ones the one with the even significand.
-/

namespace Codebook.Number

/-- A floating-point number; a finite one stands for `significand * 2 ^ exponent`. -/
inductive Binary64 where
  | finite (negative : Bool) (significand : Nat) (exponent : Int)
  | infinite (negative : Bool)
  | notANumber
deriving Repr, DecidableEq

/-! ## Rounding -/

/-- The quotient rounded to the nearest whole number; a half goes to the even neighbour. -/
def roundHalfEven (numerator denominator : Nat) : Nat :=
  let floor := numerator / denominator
  let twice := 2 * (numerator % denominator)
  if denominator < twice || (denominator == twice && floor % 2 == 1) then floor + 1 else floor

/-- The rounded quotient of `numerator` by `denominator * 2 ^ exponent`. -/
def roundScaled (numerator denominator : Nat) : Int → Nat
  | .ofNat n => roundHalfEven numerator (denominator * Nat.pow 2 n)
  | .negSucc n => roundHalfEven (numerator * Nat.pow 2 (n + 1)) denominator

/-- Whether `denominator * 2 ^ exponent` is at most the numerator. -/
def scaledLe (denominator numerator : Nat) : Int → Bool
  | .ofNat n => denominator * Nat.pow 2 n ≤ numerator
  | .negSucc n => denominator ≤ numerator * Nat.pow 2 (n + 1)

namespace Binary64

/-! ## Range of the format -/

/-- The exponent of the smallest numbers. -/
def leastExponent : Int := -1074

/-- The exponent of the greatest numbers. -/
def greatestExponent : Int := 971

/-- The zero of a sign. -/
def zero (negative : Bool) : Binary64 :=
  .finite negative 0 leastExponent

/-! ## Reading a decimal -/

/-- The nearest number to a positive quotient. -/
def ofQuotient (negative : Bool) (numerator denominator : Nat) : Binary64 :=
  let guess : Int := (numerator.log2 : Int) - (denominator.log2 : Int) - 53
  let step : Int := if scaledLe denominator numerator (guess + 53) then 1 else 0
  let exponent := max leastExponent (guess + step)
  let significand := roundScaled numerator denominator exponent
  let carried := significand == Nat.pow 2 53
  let exponent := if carried then exponent + 1 else exponent
  if greatestExponent < exponent then .infinite negative
  else .finite negative (if carried then Nat.pow 2 52 else significand) exponent

/-- The nearest number to `digits * 10 ^ power`. -/
def ofDecimal (negative : Bool) (digits : Nat) (power : Int) : Binary64 :=
  if digits == 0 then zero negative
  else
    let size : Int := (Nat.toDigits 10 digits).length
    if 310 < size + power then .infinite negative
    else if size + power < -330 then zero negative
    else
      match power with
      | .ofNat n => ofQuotient negative (digits * Nat.pow 10 n) 1
      | .negSucc n => ofQuotient negative digits (Nat.pow 10 (n + 1))

/-- The nearest number to a whole number. -/
def ofInt (n : Int) : Binary64 :=
  ofDecimal (n < 0) n.natAbs 0

/-! ## Whole numbers and order -/

/-- The magnitude of a finite number as a quotient of whole numbers. -/
def quotient (significand : Nat) : Int → Nat × Nat
  | .ofNat n => (significand * Nat.pow 2 n, 1)
  | .negSucc n => (significand, Nat.pow 2 (n + 1))

/-- The whole number that a number is, if it is one. -/
def toInt? : Binary64 → Option Int
  | .finite negative significand exponent =>
    let (numerator, denominator) := quotient significand exponent
    if numerator % denominator == 0 then
      let magnitude : Int := (numerator / denominator : Nat)
      some (if negative then -magnitude else magnitude)
    else none
  | _ => none

/-- Whether a number lies below the quotient of a whole number by a positive one. -/
def below (x : Binary64) (numerator : Int) (denominator : Nat) : Bool :=
  match x with
  | .finite negative significand exponent =>
    let (n, d) := quotient significand exponent
    let signed : Int := if negative then -(n : Int) else n
    signed * denominator < numerator * d
  | .infinite negative => negative
  | .notANumber => false

/-- Whether one number lies below another. -/
def lessThan (x y : Binary64) : Bool :=
  match y with
  | .finite negative significand exponent =>
    let (n, d) := quotient significand exponent
    x.below (if negative then -(n : Int) else n) d
  | .infinite negative =>
    match x with
    | .notANumber => false
    | .infinite other => other && !negative
    | .finite .. => !negative
  | .notANumber => false

/-- The order of two numbers, if neither is `notANumber`. -/
def order? (x y : Binary64) : Option Ordering :=
  if x == .notANumber || y == .notANumber then none
  else if x.lessThan y then some .lt
  else if y.lessThan x then some .gt
  else some .eq

/-! ## Arithmetic -/

/-- The nearest number to a whole number times a power of two; `negative` is the sign of a zero. -/
def ofScaled (negative : Bool) (n : Int) (exponent : Int) : Binary64 :=
  if n == 0 then zero negative
  else
    let (numerator, denominator) := quotient n.natAbs exponent
    ofQuotient (n < 0) numerator denominator

/-- The significand with its sign. -/
def signed (negative : Bool) (significand : Nat) : Int :=
  if negative then -(significand : Int) else significand

/-- The nearest number to the sum of two numbers. -/
def sum (x y : Binary64) : Binary64 :=
  match x, y with
  | .finite n s e, .finite n' s' e' =>
    let least := min e e'
    let whole := signed n s * Nat.pow 2 (e - least).toNat + signed n' s' * Nat.pow 2 (e' - least).toNat
    ofScaled (n && n') whole least
  | .infinite n, .infinite n' => if n == n' then .infinite n else .notANumber
  | .infinite n, .finite .. => .infinite n
  | .finite .., .infinite n => .infinite n
  | _, _ => .notANumber

/-- The nearest number to the product of two numbers. -/
def product (x y : Binary64) : Binary64 :=
  match x, y with
  | .finite n s e, .finite n' s' e' => ofScaled (n != n') (signed n s * signed n' s') (e + e')
  | .infinite n, .infinite n' => .infinite (n != n')
  | .infinite n, .finite n' s _ | .finite n' s _, .infinite n =>
    if s == 0 then .notANumber else .infinite (n != n')
  | _, _ => .notANumber

/-- The nearest number to the ratio of two numbers. -/
def ratio (x y : Binary64) : Binary64 :=
  match x, y with
  | .finite n s e, .finite n' s' e' =>
    if s' == 0 then if s == 0 then .notANumber else .infinite (n != n')
    else if s == 0 then zero (n != n')
    else
      let (numerator, denominator) := quotient s (e - e')
      ofQuotient (n != n') numerator (denominator * s')
  | .infinite n, .finite n' _ _ => .infinite (n != n')
  | .finite n _ _, .infinite n' => zero (n != n')
  | _, _ => .notANumber

/-- The number with the other sign. -/
def opposite : Binary64 → Binary64
  | .finite negative significand exponent => .finite (!negative) significand exponent
  | .infinite negative => .infinite (!negative)
  | .notANumber => .notANumber

end Binary64

end Codebook.Number
