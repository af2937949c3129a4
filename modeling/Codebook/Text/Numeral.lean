import Codebook.Text.Blank
import Codebook.Text.Digit
import Codebook.Text.Quoted

/-!
# Numerals

A text made of digits is read as a whole number when all of them are decimal, whatever their script.
A numeral of more than 4300 digits is refused for its length, which is found out while the leading
decimal digits are counted and so before a digit of another kind is met. A numeral of a base may have
blanks around it, a sign, and the mark of its base after the sign; only in base ten is its length
limited.
-/

namespace Codebook.Text

/-- Why a text is not read as a whole number. -/
inductive NumeralError where
  /-- A character is not a digit of the base. -/
  | notNumeral (base : Nat) (text : String)
  /-- The numeral begins with this many decimal digits, more than `digitLimit`. -/
  | tooLong (digits : Nat)
deriving Repr, DecidableEq

/-- The greatest number of digits that a numeral may have. -/
def digitLimit : Nat := 4300

/-- The greatest number of characters of a quoted text in the message of a `NumeralError`. -/
def quotedLimit : Nat := 200

namespace NumeralError

/-- The message of an error. -/
def message : NumeralError → String
  | notNumeral base text =>
    "invalid literal for int() with base " ++ toString base ++ ": "
      ++ String.ofList ((quoted text).toList.take quotedLimit)
  | tooLong digits =>
    "Exceeds the limit (" ++ toString digitLimit ++ " digits) for integer string conversion: value has "
      ++ toString digits ++ " digits; use sys.set_int_max_str_digits() to increase the limit"

end NumeralError

/-! ## Numerals of decimal digits -/

/-- The number that a list of decimal digits stands for. -/
def decimalNumber (chars : List Char) : Nat :=
  chars.foldl (fun total c => 10 * total + (decimalValue? c).getD 0) 0

/-- Reads a text of decimal digits. -/
def readNumeral (text : String) : Except NumeralError Nat :=
  let leading := text.toList.takeWhile isDecimal
  if digitLimit < leading.length then .error (.tooLong leading.length)
  else if leading.length < text.toList.length || leading.isEmpty then .error (.notNumeral 10 text)
  else .ok (decimalNumber leading)

/-! ## Numerals of a base -/

/-- The value of a digit from `0` to `9` or of a letter that goes on after them. -/
def letterValue? (c : Char) : Option Nat :=
  if '0' ≤ c && c ≤ '9' then some (c.toNat - '0'.toNat)
  else if 'a' ≤ c && c ≤ 'z' then some (c.toNat - 'a'.toNat + 10)
  else if 'A' ≤ c && c ≤ 'Z' then some (c.toNat - 'A'.toNat + 10)
  else none

/-- The value of a digit of a base, of any script. -/
def digitValue? (base : Nat) (c : Char) : Option Nat :=
  ((decimalValue? c).or (letterValue? c)).filter (· < base)

/-- The number that a list of digits of a base stands for. -/
def numberInBase (base : Nat) (chars : List Char) : Nat :=
  chars.foldl (fun total c => base * total + (digitValue? base c).getD 0) 0

/-- Splits a sign from a list of characters. -/
def splitSign (chars : List Char) : Bool × List Char :=
  match chars with
  | '-' :: rest => (true, rest)
  | '+' :: rest => (false, rest)
  | _ => (false, chars)

/-- Whether a blank may stand around a numeral; the separators among the controls may not. -/
def isPadding (c : Char) : Bool :=
  isBlank c && !(0x1C ≤ c.toNat && c.toNat ≤ 0x1F)

/-- The characters without the padding at both ends. -/
def withoutPadding (chars : List Char) : List Char :=
  ((chars.dropWhile isPadding).reverse.dropWhile isPadding).reverse

/-- The letters that mark a base after a zero. -/
def baseLetters (base : Nat) : List Char :=
  match base with
  | 2 => ['b', 'B']
  | 8 => ['o', 'O']
  | 16 => ['x', 'X']
  | _ => []

/-- The characters without the mark of a base. -/
def withoutBaseMark (base : Nat) (chars : List Char) : List Char :=
  match chars with
  | '0' :: letter :: rest => if (baseLetters base).contains letter then rest else chars
  | _ => chars

/-- Reads a text as a whole number in a base. -/
def readWhole (base : Nat) (text : String) : Except NumeralError Int :=
  let (negative, chars) := splitSign (withoutPadding text.toList)
  let digits := withoutBaseMark base chars
  let leading := (digits.takeWhile fun c => (digitValue? base c).isSome).length
  if base == 10 && digitLimit < leading then .error (.tooLong leading)
  else if leading < digits.length || digits.isEmpty then .error (.notNumeral base text)
  else
    let magnitude : Int := (numberInBase base digits : Nat)
    .ok (if negative then -magnitude else magnitude)

end Codebook.Text
