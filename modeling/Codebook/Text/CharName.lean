import Codebook.Text.NameTable.Beyond
import Codebook.Text.NameTable.High
import Codebook.Text.NameTable.Low
import Codebook.Text.NameTable.Other
import Codebook.Text.NameTable.Symbols

/-!
# Names of characters

The character that a name stands for. Most names are in tables, where case plays no part. Some families of
characters are named by their codes or numbers, and a Hangul syllable by the sounds that it is made of; the
names of ideographs and syllables have to be written in capital letters.
-/

namespace Codebook.Text

namespace CharName

/-! ## Tables -/

/-- The number of words that a name shares with the name before, and its other words. -/
def entry (text : String) : Nat × List String :=
  match text.toList with
  | digit :: rest => (digit.toNat - '0'.toNat, ((String.ofList rest).splitOn " ").filter (· != ""))
  | [] => (0, [])

/-- The code that has the words as its name among names from a code on; `before` holds the words of the
name before. -/
def findFrom (words before : List String) (code : Nat) : List String → Option Nat
  | [] => none
  | text :: rest =>
    let (shared, own) := entry text
    let name := before.take shared ++ own
    if name == words then some code else findFrom words name (code + 1) rest

/-- The code with a name in a table. -/
def inTable? (table : List (Nat × List String)) (words : List String) : Option Nat :=
  table.findSome? fun (first, lines) => findFrom words [] first ((String.join lines).splitOn ",")

/-- The code with one of the other names. -/
def inOthers? (name : String) : Option Nat :=
  (NameTable.others.find? fun (_, names) => names.contains name).map Prod.fst

/-! ## Families -/

/-- The value of a digit of a code, in capital letters. -/
def digit? (c : Char) : Option Nat :=
  if c.isDigit then some (c.toNat - '0'.toNat)
  else if 'A' ≤ c && c ≤ 'F' then some (c.toNat - 'A'.toNat + 10)
  else none

/-- The code of four or five digits. -/
def code? (digits : List Char) : Option Nat :=
  if digits.length == 4 || digits.length == 5 then
    digits.foldlM (fun total c => (digit? c).map (16 * total + ·)) 0
  else none

/-- What follows a beginning of a name. -/
def after? (beginning name : String) : Option (List Char) :=
  if name.startsWith beginning then some (name.toList.drop beginning.length) else none

/-- The ranges of ideographs. -/
def ideographs : List (Nat × Nat) :=
  [
    (0x3400, 0x4DBF), (0x4E00, 0x9FFF), (0x20000, 0x2A6DF), (0x2A700, 0x2B738), (0x2B740, 0x2B81D),
    (0x2B820, 0x2CEA1), (0x2CEB0, 0x2EBE0), (0x30000, 0x3134A)
  ]

/-- The families whose characters are named by their codes. -/
def families : List (String × List (Nat × Nat)) :=
  [
    ("CJK COMPATIBILITY IDEOGRAPH-", [(0xF900, 0xFA6D), (0xFA70, 0xFAD9), (0x2F800, 0x2FA1D)]),
    ("KHITAN SMALL SCRIPT CHARACTER-", [(0x18B00, 0x18CD5)]),
    ("NUSHU CHARACTER-", [(0x1B170, 0x1B2FB)])
  ]

/-- The code that a name in a family gives. -/
def inFamily? (name beginning : String) (ranges : List (Nat × Nat)) : Option Nat :=
  ((after? beginning name).bind code?).filter fun code =>
    ranges.any fun (first, last) => first ≤ code && code ≤ last

/-- The code of a component, which is named by its number. -/
def component? (name : String) : Option Nat :=
  (after? "TANGUT COMPONENT-" name).bind fun digits =>
    let number := Nat.ofDigitChars 10 digits 0
    if digits.length == 3 && digits.all Char.isDigit && 1 ≤ number && number ≤ 768 then
      some (0x18800 + (number - 1))
    else none

/-- The code of a selector of variants, which is named by its number. -/
def selector? (name : String) : Option Nat :=
  (after? "VS" name).bind fun digits =>
    let number := Nat.ofDigitChars 10 digits 0
    if digits.isEmpty || !digits.all Char.isDigit || digits.head? == some '0' then none
    else if number ≤ 16 then some (0xFE00 + (number - 1))
    else if number ≤ 256 then some (0xE0100 + (number - 17))
    else none

/-! ## Syllables -/

/-- The first sounds of syllables. -/
def firstSounds : List String :=
  ["G", "GG", "N", "D", "DD", "R", "M", "B", "BB", "S", "SS", "", "J", "JJ", "C", "K", "T", "P", "H"]

/-- The vowels of syllables. -/
def vowels : List String :=
  [
    "A", "AE", "YA", "YAE", "EO", "E", "YEO", "YE", "O", "WA", "WAE", "OE", "YO", "U", "WEO", "WE",
    "WI", "YU", "EU", "YI", "I"
  ]

/-- The last sounds of syllables. -/
def lastSounds : List String :=
  [
    "", "G", "GG", "GS", "N", "NJ", "NH", "D", "L", "LG", "LM", "LB", "LS", "LT", "LP", "LH", "M", "B",
    "BS", "S", "SS", "NG", "J", "C", "K", "T", "P", "H"
  ]

/-- The number of the longest sound at the beginning of characters, and the characters after it. -/
def sound? (sounds : List String) (chars : List Char) : Option (Nat × List Char) :=
  let fitting := sounds.zipIdx.filter fun (s, _) => s.toList.isPrefixOf chars
  (fitting.foldl
    (fun best s => if (best.map fun b => b.1.length).getD 0 < s.1.length || best.isNone then some s
      else best) none).map fun (s, number) => (number, chars.drop s.length)

/-- The code of a syllable. -/
def syllable? (name : String) : Option Nat := do
  let (first, chars) ← sound? firstSounds (← after? "HANGUL SYLLABLE " name)
  let (vowel, chars) ← sound? vowels chars
  let (last, chars) ← sound? lastSounds chars
  if chars.isEmpty then some (0xAC00 + (first * 21 + vowel) * 28 + last) else none

end CharName

open CharName in
/-- The code of the character with a name. -/
def charNamed? (name : String) : Option Nat :=
  let capitals := String.ofList (name.toList.map Char.toUpper)
  let words := capitals.splitOn " "
  [
    fun _ => syllable? name, fun _ => inFamily? name "CJK UNIFIED IDEOGRAPH-" ideographs,
    fun _ => families.findSome? fun (beginning, ranges) => inFamily? capitals beginning ranges,
    fun _ => component? capitals, fun _ => selector? capitals, fun _ => inOthers? capitals,
    fun _ => inTable? NameTable.low words, fun _ => inTable? NameTable.symbols words,
    fun _ => inTable? NameTable.high words, fun _ => inTable? NameTable.beyond words
  ].findSome? fun (look : Unit → Option Nat) => look ()

end Codebook.Text
