import Codebook.Document.Basic
import Codebook.Text.Numeral

/-!
# JSON

Documents as JSON text: a reader of the whole grammar and a writer that puts one blank after commas and
colons, keeps the order of the fields and leaves every character outside ASCII as it is. The reader refuses
a whole number with more digits than a numeral may have, and values that lie too deep inside each other,
where it meets them, whether the rest of the text is well formed or not.
-/

namespace Codebook.Json

/-! ## Writing -/

/-- A character inside a JSON text. -/
def escapedChar (c : Char) : List Char :=
  if c == '"' || c == '\\' then ['\\', c]
  else if c == '\n' then ['\\', 'n']
  else if c == '\r' then ['\\', 'r']
  else if c == '\t' then ['\\', 't']
  else if c.toNat == 8 then ['\\', 'b']
  else if c.toNat == 12 then ['\\', 'f']
  else if c.toNat < 0x20 then '\\' :: 'u' :: Text.hexDigits 4 c.toNat
  else [c]

/-- A text in JSON. -/
def ofText (text : String) : String :=
  String.ofList ('"' :: text.toList.flatMap escapedChar ++ ['"'])

/-- A scalar in JSON. -/
def ofScalar : Scalar → String
  | .null => "null"
  | .flag value => if value then "true" else "false"
  | .number (.real .notANumber) => "NaN"
  | .number (.real (.infinite negative)) => if negative then "-Infinity" else "Infinity"
  | .number value => value.text
  | other => ofText other.plainText

mutual

/-- A document in JSON. -/
def write : Document → String
  | .scalar s => ofScalar s
  | .list items => "[" ++ ", ".intercalate (writeItems items) ++ "]"
  | .mapping fields => "\x7b" ++ ", ".intercalate (writeFields fields) ++ "\x7d"
  | .pair first second => "[" ++ write first ++ ", " ++ write second ++ "]"
  | other => ofText other.shown

/-- The items of a list in JSON. -/
def writeItems : List Document → List String
  | [] => []
  | d :: rest => write d :: writeItems rest

/-- The fields of a mapping in JSON. -/
def writeFields : List (Scalar × Document) → List String
  | [] => []
  | (key, d) :: rest => (ofScalar key ++ ": " ++ write d) :: writeFields rest

end

/-! ## Reading -/

/-- Why a text is not read as JSON. -/
inductive Error where
  | malformed
  | numeral (cause : Text.NumeralError)
  /-- Too many values lie inside each other; the innermost one is a list or a mapping. -/
  | tooDeep (shape : Shape)
deriving Repr, DecidableEq

/-- How many lists and mappings may lie inside each other. -/
def depthLimit : Nat := 980

/-- The message of an error. -/
def Error.message : Error → String
  | malformed => "not a JSON text"
  | numeral cause => cause.message
  | tooDeep shape =>
    "maximum recursion depth exceeded while decoding a JSON "
      ++ (if shape == .mapping then "object" else "array") ++ " from a unicode string"

/-- A value that has to be there. -/
def required {α : Type} (value? : Option α) : Except Error α :=
  match value? with
  | some value => .ok value
  | none => .error .malformed

/-- The rest of a text after the blanks that JSON allows between values. -/
def skip (chars : List Char) : List Char :=
  chars.dropWhile fun c => c == ' ' || c == '\n' || c == '\r' || c == '\t'

/-- The value of a hexadecimal digit. -/
def hexValue? (c : Char) : Option Nat :=
  if '0' ≤ c && c ≤ '9' then some (c.toNat - '0'.toNat)
  else if 'a' ≤ c && c ≤ 'f' then some (c.toNat - 'a'.toNat + 10)
  else if 'A' ≤ c && c ≤ 'F' then some (c.toNat - 'A'.toNat + 10)
  else none

/-- The number that a list of hexadecimal digits stands for. -/
def hexNumber? (chars : List Char) : Option Nat :=
  chars.foldlM (fun total c => (hexValue? c).map (16 * total + ·)) 0

/-- The code point of a pair of surrogates, or of a lone code unit. -/
def codePoint (high : Nat) (rest : List Char) : Nat × List Char :=
  match rest with
  | '\\' :: 'u' :: a :: b :: c :: d :: rest' =>
    match hexNumber? [a, b, c, d] with
    | some low =>
      if 0xD800 ≤ high && high < 0xDC00 && 0xDC00 ≤ low && low < 0xE000 then
        (0x10000 + (high - 0xD800) * 0x400 + (low - 0xDC00), rest')
      else (high, rest)
    | none => (high, rest)
  | _ => (high, rest)

/-- Reads the characters of a text up to its closing quote; `read` holds those read, the last first. -/
def textFrom (fuel : Nat) (read : List Char) (chars : List Char) : Option (String × List Char) :=
  match fuel, chars with
  | _, '"' :: rest => some (String.ofList read.reverse, rest)
  | fuel + 1, '\\' :: 'u' :: a :: b :: c :: d :: rest => do
    let unit ← hexNumber? [a, b, c, d]
    let (code, rest) := codePoint unit rest
    textFrom fuel (Char.ofNat code :: read) rest
  | fuel + 1, '\\' :: c :: rest =>
    match "\"\\/bfnrt".toList.zip ['"', '\\', '/', Char.ofNat 8, Char.ofNat 12, '\n', '\r', '\t']
        |>.lookup c with
    | some meant => textFrom fuel (meant :: read) rest
    | none => none
  | fuel + 1, c :: rest => if c.toNat < 0x20 then none else textFrom fuel (c :: read) rest
  | _, _ => none

/-- Reads the digits after a point, if there are any. -/
def fraction (chars : List Char) : List Char × List Char :=
  match chars with
  | '.' :: more =>
    if (more.takeWhile Char.isDigit).isEmpty then ([], chars)
    else (more.takeWhile Char.isDigit, more.dropWhile Char.isDigit)
  | _ => ([], chars)

/-- Reads a power of ten, if there is one. -/
def power (chars : List Char) : Option Int × List Char :=
  match chars with
  | e :: more =>
    let (minus, digits) := Text.splitSign more
    let shown := digits.takeWhile Char.isDigit
    if (e == 'e' || e == 'E') && !shown.isEmpty then
      let size : Int := (Nat.ofDigitChars 10 shown 0 : Nat)
      (some (if minus then -size else size), digits.dropWhile Char.isDigit)
    else (none, chars)
  | [] => (none, chars)

/-- Reads a number. -/
def number (chars : List Char) : Except Error (Number × List Char) := do
  let (negative, chars) :=
    match chars with
    | '-' :: rest => (true, rest)
    | _ => (false, chars)
  let shown := chars.takeWhile Char.isDigit
  if shown.isEmpty then throw .malformed
  let whole := if shown.head? == some '0' then ['0'] else shown
  let (fraction, rest) := fraction (chars.drop whole.length)
  let (power, rest) := power rest
  let digits := Nat.ofDigitChars 10 (whole ++ fraction) 0
  if fraction.isEmpty && power.isNone then
    if Text.digitLimit < whole.length then throw (.numeral (.tooLong whole.length))
    return (.whole (if negative then -(digits : Int) else digits), rest)
  else
    return (.real (Number.Binary64.ofDecimal negative digits (power.getD 0 - fraction.length)), rest)

/-- The constants that JSON texts may name. -/
def constants : List (String × Scalar) :=
  [
    ("null", .null), ("true", .flag true), ("false", .flag false),
    ("NaN", .number (.real .notANumber)), ("Infinity", .number (.real (.infinite false))),
    ("-Infinity", .number (.real (.infinite true)))
  ]

/-- Reads a constant. -/
def constant (chars : List Char) : Option (Scalar × List Char) :=
  constants.findSome? fun (name, value) =>
    if name.toList.isPrefixOf chars then some (value, chars.drop name.length) else none

mutual

/-- Reads a value; `fuel` bounds the number of nested steps, and `depth` values lie around it. -/
def value (fuel depth : Nat) (chars : List Char) : Except Error (Document × List Char) :=
  match fuel with
  | 0 => throw .malformed
  | fuel + 1 =>
    match skip chars with
    | '"' :: rest => (required (textFrom rest.length [] rest)).map fun (s, after) => (.ofText s, after)
    | '[' :: rest =>
      if depthLimit ≤ depth then throw (.tooDeep .list)
      else
        match skip rest with
        | ']' :: after => return (.list [], after)
        | _ => items fuel (depth + 1) [] rest
    | '{' :: rest =>
      if depthLimit ≤ depth then throw (.tooDeep .mapping)
      else
        match skip rest with
        | '}' :: after => return (.mapping [], after)
        | _ => fields fuel (depth + 1) [] rest
    | other =>
      match constant other with
      | some (s, after) => return (.scalar s, after)
      | none => (number other).map fun (n, after) => (.scalar (.number n), after)

/-- Reads the items of a list after its bracket; `read` holds those read, the last first. -/
def items (fuel depth : Nat) (read : List Document) (chars : List Char) :
    Except Error (Document × List Char) :=
  match fuel with
  | 0 => throw .malformed
  | fuel + 1 => do
    let (item, after) ← value fuel depth chars
    match skip after with
    | ',' :: rest => items fuel depth (item :: read) rest
    | ']' :: rest => return (.list (item :: read).reverse, rest)
    | _ => throw .malformed

/-- Reads the fields of a mapping after its brace; of a repeated key the last value counts. -/
def fields (fuel depth : Nat) (read : Keyed Scalar Document) (chars : List Char) :
    Except Error (Document × List Char) :=
  match fuel with
  | 0 => throw .malformed
  | fuel + 1 =>
    match skip chars with
    | '"' :: rest => do
      let (key, after) ← required (textFrom rest.length [] rest)
      match skip after with
      | ':' :: rest => do
        let (item, after) ← value fuel depth rest
        let read := read.put (.text key) item
        match skip after with
        | ',' :: rest => fields fuel depth read rest
        | '}' :: rest => return (.mapping read, rest)
        | _ => throw .malformed
      | _ => throw .malformed
    | _ => throw .malformed

end

/-- Reads a JSON text that holds one value. -/
def read (text : String) : Except Error Document := do
  let (document, rest) ← value (text.toList.length + 1) 0 text.toList
  if (skip rest).isEmpty then return document else throw .malformed

/-- The value of a JSON text, if it holds one. -/
def read? (text : String) : Option Document :=
  (read text).toOption

end Codebook.Json
