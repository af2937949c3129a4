import Codebook.Number.Shortest
import Codebook.Text.Case
import Codebook.Text.Numeral

/-!
# Reading numbers with a fraction

A text that is read as a number with a fraction: blanks at its ends, a sign, digits of any script with a
point among them, and an exponent. The words for the numbers beyond the finite ones count too, in any
case.
-/

namespace Codebook.Number.Binary64

/-- The characters with every decimal digit written as a digit from `0` to `9`. -/
def plainDigits (chars : List Char) : List Char :=
  chars.map fun c => ((Text.decimalValue? c).map Nat.digitChar).getD c

/-- Reads an exponent; no characters stand for the exponent zero. -/
def exponent? (chars : List Char) : Option Int :=
  match chars with
  | [] => some 0
  | e :: rest =>
    let (negative, digits) := Text.splitSign rest
    if (e == 'e' || e == 'E') && !digits.isEmpty && digits.all Char.isDigit then
      let size : Int := (Nat.ofDigitChars 10 digits 0 : Nat)
      some (if negative then -size else size)
    else none

/-- Reads digits, of which some may follow a point, and an exponent. -/
def decimal? (negative : Bool) (chars : List Char) : Option Binary64 :=
  let before := chars.takeWhile Char.isDigit
  let rest := chars.dropWhile Char.isDigit
  let (fraction, rest) :=
    match rest with
    | '.' :: more => (more.takeWhile Char.isDigit, more.dropWhile Char.isDigit)
    | _ => ([], rest)
  if before.isEmpty && fraction.isEmpty then none
  else
    (exponent? rest).map fun power =>
      ofDecimal negative (Nat.ofDigitChars 10 (before ++ fraction) 0) (power - fraction.length)

/-- Reads a text as a number with a fraction. -/
def ofText? (text : String) : Option Binary64 :=
  let (negative, chars) := Text.splitSign (plainDigits (Text.withoutPadding text.toList))
  let word := Text.lower (String.ofList chars)
  if word == "inf" || word == "infinity" then some (.infinite negative)
  else if word == "nan" then some .notANumber
  else decimal? negative chars

end Codebook.Number.Binary64
