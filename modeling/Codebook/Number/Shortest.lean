import Codebook.Number.Binary64

/-!
# Decimal text of numbers

Three decimal forms of a number: the fewest digits that read back as the number, a fixed count of
digits after the point, and a fixed count of significant digits. The fewest digits are found by trying
1, 2, … 17 of them: of the two decimals around the number with that many digits, the nearer one that
rounds to it.
-/

namespace Codebook.Number

/-- The decimal `digits * 10 ^ power`. -/
structure Decimal where
  digits : Nat
  power : Int
deriving Repr, DecidableEq

/-- Whether one positive quotient is at most `digits * 10 ^ power`. -/
def quotientLeDecimal (numerator denominator digits : Nat) : Int → Bool
  | .ofNat n => numerator ≤ digits * Nat.pow 10 n * denominator
  | .negSucc n => numerator * Nat.pow 10 (n + 1) ≤ digits * denominator

/-- Whether `digits * 10 ^ power` is at most a positive quotient. -/
def decimalLeQuotient (numerator denominator digits : Nat) : Int → Bool
  | .ofNat n => digits * Nat.pow 10 n * denominator ≤ numerator
  | .negSucc n => digits * denominator ≤ numerator * Nat.pow 10 (n + 1)

/-- The power of ten of the leading digit of a positive quotient. -/
def leadingPower (numerator denominator : Nat) : Int :=
  if denominator ≤ numerator then (Nat.toDigits 10 (numerator / denominator)).length - 1
  else
    match (List.range 400).find? fun j => denominator ≤ numerator * Nat.pow 10 (j + 1) with
    | some j => -((j : Int) + 1)
    | none => -400

/-- The quotient of `numerator` by `denominator * 10 ^ power`, rounded down. -/
def floorScaled (numerator denominator : Nat) : Int → Nat
  | .ofNat n => numerator / (denominator * Nat.pow 10 n)
  | .negSucc n => numerator * Nat.pow 10 (n + 1) / denominator

/-- The quotient of `numerator` by `denominator * 10 ^ power`, rounded to the nearest. -/
def nearestScaled (numerator denominator : Nat) : Int → Nat
  | .ofNat n => roundHalfEven numerator (denominator * Nat.pow 10 n)
  | .negSucc n => roundHalfEven (numerator * Nat.pow 10 (n + 1)) denominator

/-- The digits of a decimal without closing zeros, and the power of ten of its leading digit. -/
def Decimal.leadingDigits (decimal : Decimal) : List Char × Int :=
  let digits := Nat.toDigits 10 decimal.digits
  let kept := (digits.reverse.dropWhile (· == '0')).reverse
  (if kept.isEmpty then ['0'] else kept, decimal.power + digits.length - 1)

namespace Binary64

/-! ## Fewest digits -/

/-- The fewest digits that read back as the positive number `significand * 2 ^ exponent`. -/
def shortest (significand : Nat) (exponent : Int) : Decimal :=
  let (numerator, denominator) := quotient significand (exponent - 2)
  let value := 4 * numerator
  let narrow := significand == Nat.pow 2 52 && leastExponent < exponent
  let low := value - (if narrow then numerator / significand else 2 * (numerator / significand))
  let high := value + 2 * (numerator / significand)
  let ends := significand % 2 == 0
  let inside (digits : Nat) (power : Int) : Bool :=
    if ends then
      decimalLeQuotient high denominator digits power && quotientLeDecimal low denominator digits power
    else
      !quotientLeDecimal high denominator digits power && !decimalLeQuotient low denominator digits power
  let leading := leadingPower value denominator
  let attempt (count : Nat) : Option Decimal :=
    let power := leading - (count : Int)
    let floor := floorScaled value denominator power
    let nearest := nearestScaled value denominator power
    let other := if nearest == floor then floor + 1 else floor
    if inside nearest power then some ⟨nearest, power⟩
    else if inside other power then some ⟨other, power⟩
    else none
  match (List.range 17).findSome? attempt with
  | some decimal => decimal
  | none => ⟨nearestScaled value denominator (leading - 16), leading - 16⟩

/-- A list of digits with a point after the digit for the power of ten zero. -/
def pointed (digits : List Char) (leading : Int) : List Char :=
  match leading with
  | .ofNat n =>
    let padded := digits ++ List.replicate (n + 1 - digits.length) '0'
    let fraction := padded.drop (n + 1)
    padded.take (n + 1) ++ '.' :: (if fraction.isEmpty then ['0'] else fraction)
  | .negSucc n => '0' :: '.' :: List.replicate n '0' ++ digits

/-- A list of digits with a point after the first and an exponent of at least two digits. -/
def scientific (digits : List Char) (leading : Int) : List Char :=
  let mantissa :=
    match digits with
    | [] => []
    | [d] => [d]
    | d :: rest => d :: '.' :: rest
  let magnitude := Nat.toDigits 10 leading.natAbs
  mantissa ++ 'e' :: (if leading < 0 then '-' else '+') ::
    (List.replicate (2 - magnitude.length) '0' ++ magnitude)

/-- The text of a number: its fewest digits, positional from `0.0001` up to below `10 ^ 16`. -/
def text : Binary64 → String
  | .notANumber => "nan"
  | .infinite negative => if negative then "-inf" else "inf"
  | .finite negative significand exponent =>
    let body :=
      if significand == 0 then "0.0".toList
      else
        let (digits, leading) := (shortest significand exponent).leadingDigits
        if -4 ≤ leading && leading < 16 then pointed digits leading else scientific digits leading
    String.ofList (if negative then '-' :: body else body)

/-! ## Fixed counts of digits -/

/-- The text with `places` digits after the point; a half goes to the even neighbour. -/
def fixed (places : Nat) : Binary64 → String
  | .notANumber => "nan"
  | .infinite negative => if negative then "-inf" else "inf"
  | .finite negative significand exponent =>
    let (numerator, denominator) := quotient significand exponent
    let digits := Nat.toDigits 10 (roundHalfEven (numerator * Nat.pow 10 places) denominator)
    let padded := List.replicate (places + 1 - digits.length) '0' ++ digits
    let whole := padded.take (padded.length - places)
    let fraction := padded.drop (padded.length - places)
    let body := if fraction.isEmpty then whole else whole ++ '.' :: fraction
    String.ofList (if negative then '-' :: body else body)

/-- The number with no more than `count` significant decimal digits. -/
def toSignificant (count : Nat) : Binary64 → Binary64
  | .finite negative significand exponent =>
    if significand == 0 then zero negative
    else
      let (numerator, denominator) := quotient significand exponent
      let power := leadingPower numerator denominator - (count : Int) + 1
      ofDecimal negative (nearestScaled numerator denominator power) power
  | other => other

end Binary64

end Codebook.Number

namespace Codebook

/-! ## Whole and binary numbers together -/

/-- A number as a document or a cell gives it: whole, or with a fraction or an exponent. -/
inductive Number where
  | whole (n : Int)
  | real (x : Number.Binary64)
deriving Repr, DecidableEq

namespace Number

/-- The decimal text of a number. -/
def text : Number → String
  | whole n => toString n
  | real x => x.text

/-- The whole number that a number is, if it is one. -/
def toInt? : Number → Option Int
  | whole n => some n
  | real x => x.toInt?

/-- Whether the number lies below a whole number. -/
def below (x : Number) (bound : Int) : Bool :=
  match x with
  | whole n => n < bound
  | real y => y.below bound 1

/-- The order of two numbers, if both have a place in it. -/
def order? : Number → Number → Option Ordering
  | whole m, whole n => some (compare m n)
  | real x, whole n => wholeOrder? x n
  | whole m, real y => (wholeOrder? y m).map Ordering.swap
  | real x, real y => x.order? y
where
  /-- The order of a number and a whole number. -/
  wholeOrder? (x : Binary64) (n : Int) : Option Ordering :=
    if x == .notANumber then none
    else if x.below n 1 then some .lt
    else if x.toInt? == some n then some .eq
    else some .gt

end Number

end Codebook
