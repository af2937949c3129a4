import Codebook.Config.Settings
import Codebook.Failure
import Codebook.Text.Blank
import Codebook.Text.Case

/-!
# Markets

The country that a workbook names has a market code: that of the key which is equal to it, or else of
the first key that differs from it in case alone.
-/

namespace Codebook.Market

/-- The code of the first key that is equal to a folded name. -/
def firstFolded (name : String) : Keyed Scalar String → Except Failure (Option String)
  | [] => .ok none
  | (.text key, code) :: rest => if Text.fold key == name then .ok (some code) else firstFolded name rest
  | (key, _) :: _ => .error (.countryKey key.kindName)

/-- The market code of a country. -/
def codeOf (countries : Keyed Scalar String) (country : Option String) : Except Failure String := do
  let some text := country | .error (.unrecognizedCountry none)
  let name := Text.trim text
  match countries.get? (.text name) with
  | some code => return code
  | none =>
    match ← firstFolded (Text.fold name) countries with
    | some code => return code
    | none => .error (.unrecognizedCountry country)

end Codebook.Market
