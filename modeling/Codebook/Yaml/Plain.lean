import Codebook.Text.Numeral

/-!
# Tags

The tag of a node says what its text or its parts stand for. A scalar without quotes has none; its text
decides which tag it gets: that of a truth value, nothing, a whole number in one of five notations, a
number with a fraction, a day or moment, a merge, a default value, or else a text. One line feed at the
end of the text is passed over.
-/

namespace Codebook.Yaml

/-- What a node stands for. -/
inductive Tag where
  | null
  | truth
  | whole
  | real
  | bytes
  | moment
  | text
  | list
  | mapping
  | set
  | orderedMap
  | pairs
  | merge
  | default
  /-- A tag without a meaning. -/
  | other
deriving Repr, DecidableEq

namespace Tag

/-- The beginning of the tags with a meaning. -/
def home : String := "tag:yaml.org,2002:"

/-- The names of the tags with a meaning. -/
def names : List (String × Tag) :=
  [
    ("null", null), ("bool", truth), ("int", whole), ("float", real), ("binary", bytes),
    ("timestamp", moment), ("str", text), ("seq", list), ("map", mapping), ("set", set),
    ("omap", orderedMap), ("pairs", pairs), ("merge", merge), ("value", default)
  ]

/-- The tag with a written form. -/
def ofText (s : String) : Tag :=
  (names.lookup (s.toList.drop home.length |> String.ofList)).filter (fun _ => s.startsWith home)
    |>.getD other

end Tag

/-! ## Lists of digits -/

/-- Whether a character is a digit or an underscore. -/
def isGroupChar (c : Char) : Bool :=
  c.isDigit || c == '_'

/-- Whether a list begins with a digit and goes on with digits and underscores. -/
def isGrouped (chars : List Char) : Bool :=
  match chars with
  | [] => false
  | c :: rest => c.isDigit && rest.all isGroupChar

/-- The parts of a list of characters between colons. -/
def colonParts (chars : List Char) : List (List Char) :=
  chars.foldr
    (fun c parts =>
      match parts with
      | [] => [[c]]
      | part :: rest => if c == ':' then [] :: part :: rest else (c :: part) :: rest)
    [[]]

/-- Whether a part between colons has one or two digits and stays below sixty. -/
def isSixtieth (chars : List Char) : Bool :=
  match chars with
  | [c] => c.isDigit
  | [a, b] => '0' ≤ a && a ≤ '5' && b.isDigit
  | _ => false

/-- Whether a list is digits, then parts of sixty after colons, one at least. -/
def isSixties (chars : List Char) : Bool :=
  match colonParts chars with
  | first :: second :: more => isGrouped first && (second :: more).all isSixtieth
  | _ => false

/-! ## Whole numbers -/

/-- Whether a list is a whole number without a sign. -/
def isUnsigned (chars : List Char) : Bool :=
  match chars with
  | ['0'] => true
  | '0' :: 'b' :: c :: rest => (c :: rest).all fun c => c == '0' || c == '1' || c == '_'
  | '0' :: 'x' :: c :: rest =>
    (c :: rest).all fun c => c.isDigit || ('a' ≤ c && c ≤ 'f') || ('A' ≤ c && c ≤ 'F') || c == '_'
  | '0' :: rest => rest.all fun c => ('0' ≤ c && c ≤ '7') || c == '_'
  | _ => isGrouped chars || isSixties chars

/-- Whether a list is a whole number. -/
def isWhole (chars : List Char) : Bool :=
  isUnsigned (Text.splitSign chars).2

/-! ## Numbers with a fraction -/

/-- Whether a list is an exponent, which has a sign, or empty. -/
def isExponent (chars : List Char) : Bool :=
  match chars with
  | [] => true
  | e :: sign :: c :: rest =>
    (e == 'e' || e == 'E') && (sign == '+' || sign == '-') && (c :: rest).all Char.isDigit
  | _ => false

/-- Whether a list is a number with a point. -/
def isReal (chars : List Char) : Bool :=
  let unsigned := (Text.splitSign chars).2
  let hasSign := unsigned.length != chars.length
  let before := unsigned.takeWhile (· != '.')
  match unsigned.dropWhile (· != '.') with
  | '.' :: after =>
    let rest := after.dropWhile isGroupChar
    if before.isEmpty then
      ["inf", "Inf", "INF"].contains (String.ofList after)
        || (!hasSign && (["nan", "NaN", "NAN"].contains (String.ofList after)
          || (isGrouped (after.takeWhile isGroupChar) && isExponent rest)))
    else (isGrouped before && isExponent rest) || (isSixties before && rest.isEmpty)
  | _ => false

/-! ## Days and moments -/

/-- Splits one or two digits from the beginning of a list. -/
def oneOrTwo? (chars : List Char) : Option (List Char × List Char) :=
  match chars with
  | a :: b :: rest =>
    if a.isDigit && b.isDigit then some ([a, b], rest)
    else if a.isDigit then some ([a], b :: rest)
    else none
  | [a] => if a.isDigit then some ([a], []) else none
  | [] => none

/-- Splits two digits from the beginning of a list. -/
def two? (chars : List Char) : Option (List Char × List Char) :=
  (oneOrTwo? chars).filter fun p => p.1.length == 2

/-- The rest of a list after a character. -/
def after? (c : Char) (chars : List Char) : Option (List Char) :=
  match chars with
  | d :: rest => if c == d then some rest else none
  | [] => none

/-- A distance from universal time as it is written. -/
structure ZoneParts where
  isNegative : Bool
  hours : List Char
  minutes : List Char

/-- A time of day as it is written. -/
structure TimeParts where
  hour : List Char
  minute : List Char
  second : List Char
  fraction : List Char
  zone : Option ZoneParts

/-- A day or moment as it is written. -/
structure MomentParts where
  year : List Char
  month : List Char
  day : List Char
  time : Option TimeParts

/-- Whether a character may stand between a day and a time. -/
def isTimeBlank (c : Char) : Bool :=
  c == ' ' || c == '\t'

/-- Reads the distance from universal time, which goes to the end of the list. -/
def zoneParts? (chars : List Char) : Option (Option ZoneParts) :=
  if chars.isEmpty then some none
  else
    match chars.dropWhile isTimeBlank with
    | ['Z'] => some (some ⟨false, ['0'], []⟩)
    | sign :: rest =>
      if sign == '+' || sign == '-' then do
        let (hours, rest) ← oneOrTwo? rest
        if rest.isEmpty then return some ⟨sign == '-', hours, []⟩
        let (minutes, rest) ← two? (← after? ':' rest)
        if rest.isEmpty then return some ⟨sign == '-', hours, minutes⟩ else none
      else none
    | [] => none

/-- Reads the time of day after its day, which goes to the end of the list. -/
def timeParts? (chars : List Char) : Option TimeParts := do
  let rest ←
    match chars with
    | 'T' :: rest | 't' :: rest => some rest
    | c :: _ => if isTimeBlank c then some (chars.dropWhile isTimeBlank) else none
    | [] => none
  let (hour, rest) ← oneOrTwo? rest
  let (minute, rest) ← two? (← after? ':' rest)
  let (second, rest) ← two? (← after? ':' rest)
  let (fraction, rest) :=
    match rest with
    | '.' :: rest => (rest.takeWhile Char.isDigit, rest.dropWhile Char.isDigit)
    | _ => ([], rest)
  return ⟨hour, minute, second, fraction, ← zoneParts? rest⟩

/-- Reads a day or moment. -/
def momentParts? (chars : List Char) : Option MomentParts := do
  let year := chars.take 4
  if !(year.length == 4 && year.all Char.isDigit) then none
  let (month, rest) ← oneOrTwo? (← after? '-' (chars.drop 4))
  let (day, rest) ← oneOrTwo? (← after? '-' rest)
  if rest.isEmpty then return ⟨year, month, day, none⟩
  return ⟨year, month, day, some (← timeParts? rest)⟩

/-- Whether a list is a day or moment; a day without a time has two digits for month and day. -/
def isMoment (chars : List Char) : Bool :=
  match momentParts? chars with
  | some parts => parts.time.isSome || (parts.month.length == 2 && parts.day.length == 2)
  | none => false

/-! ## All of them -/

/-- The spellings of a word that count: lower case, capitalised and upper case. -/
def spellings (word : String) : List String :=
  [word, word.capitalize, word.toUpper]

/-- The words for truth values. -/
def truthWords : List String :=
  ["yes", "no", "true", "false", "on", "off"]

/-- The characters without a line feed at their end. -/
def withoutLineFeed (chars : List Char) : List Char :=
  if chars.getLast? == some '\n' then chars.dropLast else chars

/-- The tag of a scalar without quotes. -/
def Tag.ofPlain (text : String) : Tag :=
  let chars := withoutLineFeed text.toList
  let word := String.ofList chars
  if (truthWords.flatMap spellings).contains word then .truth
  else if isReal chars then .real
  else if isWhole chars then .whole
  else if word == "<<" then .merge
  else if text == "" || word == "~" || (spellings "null").contains word then .null
  else if isMoment chars then .moment
  else if word == "=" then .default
  else if ["!", "&", "*"].contains word then .other
  else .text

end Codebook.Yaml
