import Codebook.Text.CaseTable

/-!
# Case

Lower-case, upper-case and folded forms of a text. One letter may become several, and a capital sigma
becomes the final sigma at the end of a word: after a letter with case and before none, where the
characters that the database calls case-ignorable are passed over on both sides.
-/

namespace Codebook.Text

open CaseTable

/-! ## Single characters -/

/-- The lower-case form of a character, wherever it stands. -/
def lowerChar (c : Char) : List Char :=
  if c.toNat == 0x130 then ['i', Char.ofNat 0x307] else [Char.ofNat (move lowerShifts c.toNat)]

/-- The upper-case form of a character. -/
def upperChar (c : Char) : List Char :=
  match upperExpansions.lookup c.toNat with
  | some codes => codes.map Char.ofNat
  | none => [Char.ofNat (move upperShifts c.toNat)]

/-- The folded form of a character, equal for characters that differ in case alone. -/
def foldChar (c : Char) : List Char :=
  match foldExpansions.lookup c.toNat with
  | some codes => codes.map Char.ofNat
  | none =>
    if foldShifts.any fun s => s.first ≤ c.toNat && c.toNat ≤ s.last && (c.toNat - s.first) % s.step == 0
    then [Char.ofNat (move foldShifts c.toNat)]
    else lowerChar c

/-- The first letter of the lower-case form of a character. -/
def smallLetter (c : Char) : Char :=
  (lowerChar c).head?.getD c

/-- Whether a character has another lower-case or upper-case form. -/
def hasCase (c : Char) : Bool :=
  lowerChar c != [c] || upperChar c != [c]

/-- Whether a character meets a wanted one where case plays no part: a letter with case is met by those
with the same small letter or one that goes together with it, any other character by itself. -/
def meetsInAnyCase (wanted c : Char) : Bool :=
  if !hasCase wanted then wanted == c
  else
    let small := smallLetter wanted
    let others := (kindred.find? fun group => group.contains small.toNat).getD []
    smallLetter c == small || others.contains (smallLetter c).toNat

/-! ## Texts -/

/-- Whether the nearest character that is not passed over is a letter with case. -/
def meetsCased (chars : List Char) : Bool :=
  match chars.dropWhile fun c => within ignorable c.toNat with
  | [] => false
  | c :: _ => within cased c.toNat

/-- Lower-cases characters; `before` holds those already passed, the nearest first. -/
def lowerFrom (before : List Char) : List Char → List Char
  | [] => []
  | c :: rest =>
    let lowered :=
      if c == 'Σ' then
        [if meetsCased before && !meetsCased rest then 'ς' else 'σ']
      else lowerChar c
    lowered ++ lowerFrom (c :: before) rest

/-- The lower-case form of a text. -/
def lower (text : String) : String :=
  String.ofList (lowerFrom [] text.toList)

/-- The upper-case form of a text. -/
def upper (text : String) : String :=
  String.ofList (text.toList.flatMap upperChar)

/-- The form of a text in which case plays no part. -/
def fold (text : String) : String :=
  String.ofList (text.toList.flatMap foldChar)

end Codebook.Text
