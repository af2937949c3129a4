import Codebook.Keyed
import Codebook.Text.Blank
import Codebook.Text.Case
import Codebook.Text.LineBreak

/-!
# Variables

The variables of a call come from its surroundings and from a file with lines such as `KEY=value`. A
line may begin with the word `export`, a value may stand between quotes, comments follow a number sign,
and `${KEY}` or `${KEY:-default}` in a value stands for another variable. A line that reads in no such
way is passed over, but a variable that reads and cannot be set is an error.
-/

namespace Codebook.CommandLine

/-- The values of variables. -/
abbrev Variables := Keyed String String

/-- Why a variable cannot be set. -/
inductive VariableError where
  | nullCharacter
  | badName
deriving Repr, DecidableEq

namespace VariableError

/-- The message of an error. -/
def message : VariableError → String
  | nullCharacter => "embedded null byte"
  | badName => "illegal environment variable name"

end VariableError

namespace Variables

/-! ## Pieces of a line -/

/-- Whether a character ends a line. -/
def isBreak (c : Char) : Bool :=
  c == '\n' || c == '\r'

/-- Writes every line break as a line feed, and leaves out a byte order mark in front. -/
def unified (chars : List Char) : List Char :=
  Text.unifyBreaks (if chars.head? == some '\uFEFF' then chars.drop 1 else chars)

/-- Skips blanks on a line. -/
def skipBlanks (chars : List Char) : List Char :=
  chars.dropWhile fun c => Text.isBlank c && !isBreak c

/-- The characters after the word `export`, if a blank follows it. -/
def skipExport (chars : List Char) : List Char :=
  let rest := chars.drop 6
  if "export".toList.isPrefixOf chars && (skipBlanks rest).length < rest.length then skipBlanks rest
  else chars

/-- The characters between quotes and those after them; the character after a backslash closes
nothing. -/
def between? (quote : Char) : List Char → Option (List Char × List Char)
  | [] => none
  | '\\' :: c :: rest =>
    (between? quote rest).map fun (inside, after) => ('\\' :: c :: inside, after)
  | c :: rest =>
    if c == quote then some ([], rest)
    else (between? quote rest).map fun (inside, after) => (c :: inside, after)

/-- What a character after a backslash stands for between double quotes. -/
def escapes : List (Char × Char) :=
  [
    ('\\', '\\'), ('\'', '\''), ('"', '"'), ('a', Char.ofNat 7), ('b', Char.ofNat 8),
    ('f', Char.ofNat 12), ('n', '\n'), ('r', '\r'), ('t', '\t'), ('v', Char.ofNat 11)
  ]

/-- Replaces the escapes that are among the given ones. -/
def unescape (known : List (Char × Char)) : List Char → List Char
  | '\\' :: c :: rest =>
    match known.lookup c with
    | some meant => meant :: unescape known rest
    | none => '\\' :: unescape known (c :: rest)
  | c :: rest => c :: unescape known rest
  | [] => []

/-- The characters before a comment, which begins with a number sign after a blank. -/
def beforeComment : List Char → List Char
  | [] => []
  | c :: rest =>
    let next := (c :: rest).dropWhile Text.isBlank
    if Text.isBlank c && next.head? == some '#' then [] else c :: beforeComment rest

/-- Reads a key; a line with a comment alone has none. -/
def key? (chars : List Char) : Option (Option String × List Char) :=
  match chars with
  | '#' :: _ => some (none, chars)
  | '\'' :: rest =>
    let inside := rest.takeWhile (· != '\'')
    match rest.dropWhile (· != '\'') with
    | _ :: after => if inside.isEmpty then none else some (some (String.ofList inside), after)
    | [] => none
  | _ =>
    let isKeyChar (c : Char) : Bool := !Text.isBlank c && c != '=' && c != '#'
    let inside := chars.takeWhile isKeyChar
    if inside.isEmpty then none
    else some (some (String.ofList inside), chars.dropWhile isKeyChar)

/-- Reads a value after its equals sign. Without quotes it is the rest of the line up to a comment. -/
def value? (chars : List Char) : Option (String × List Char) :=
  match skipBlanks chars with
  | '\'' :: rest =>
    (between? '\'' rest).map fun (inside, after) =>
      (String.ofList (unescape (escapes.take 2) inside), after)
  | '"' :: rest =>
    (between? '"' rest).map fun (inside, after) => (String.ofList (unescape escapes inside), after)
  | _ =>
    let line := chars.takeWhile fun c => !isBreak c
    some (String.ofList (Text.trimChars (beforeComment line)), chars.dropWhile fun c => !isBreak c)

/-- Reads the end of a line, after a comment if there is one. -/
def lineEnd? (chars : List Char) : Option (List Char) :=
  let rest := skipBlanks chars
  let rest := if rest.head? == some '#' then rest.dropWhile fun c => !isBreak c else rest
  match rest with
  | [] => some []
  | '\r' :: '\n' :: after => some after
  | c :: after => if isBreak c then some after else none

/-! ## Lines -/

/-- A line of the file: a key with its value, a key alone, or neither. -/
abbrev Binding := Option (String × Option String)

/-- Reads a line from its first character on. -/
def line? (chars : List Char) : Option (Binding × List Char) := do
  let (key, rest) ← key? (skipExport chars)
  let rest := skipBlanks rest
  let (value, rest) ←
    match rest with
    | '=' :: after => (value? after).map fun (v, left) => (some v, left)
    | _ => some (none, rest)
  let rest ← lineEnd? rest
  return (key.map fun k => (k, value), rest)

/-- The rest of a text after the line that could not be read, of which `left` is what was not yet
read when that was found out. -/
def afterLine (left : List Char) : List Char :=
  (left.dropWhile fun c => !isBreak c).drop 1

/-- How far a line was read before it turned out to be none. -/
def readUpTo (chars : List Char) : List Char :=
  match key? (skipExport chars) with
  | none => skipExport chars
  | some (_, rest) =>
    match skipBlanks rest with
    | '=' :: after =>
      match value? after with
      | some (_, left) => left
      | none => skipBlanks after
    | other => other

/-- The lines of a file; `fuel` bounds their number. -/
def linesFrom (fuel : Nat) (chars : List Char) : List Binding :=
  match fuel, chars.dropWhile Text.isBlank with
  | 0, _ => []
  | _, [] => []
  | fuel + 1, start =>
    match line? start with
    | some (binding, rest) => binding :: linesFrom fuel rest
    | none => none :: linesFrom fuel (afterLine (readUpTo start))

/-! ## Values -/

/-- A value with the variables in it replaced; `fuel` bounds their number. -/
def expand (known : Keyed String (Option String)) (fuel : Nat) (chars : List Char) : List Char :=
  match fuel, chars with
  | fuel + 1, '$' :: '{' :: rest =>
    let name := rest.takeWhile fun c => c != '}' && c != ':'
    let meant (default : List Char) : List Char :=
      match known.get? (String.ofList name) with
      | some (some value) => value.toList
      | some none => []
      | none => default
    match rest.dropWhile fun c => c != '}' && c != ':' with
    | '}' :: after => meant [] ++ expand known fuel after
    | ':' :: '-' :: more =>
      match more.dropWhile (· != '}') with
      | _ :: after => meant (more.takeWhile (· != '}')) ++ expand known fuel after
      | [] => '$' :: expand known fuel ('{' :: rest)
    | _ => '$' :: expand known fuel ('{' :: rest)
  | fuel + 1, c :: rest => c :: expand known fuel rest
  | _, _ => []

/-- The values that the bindings of a file give, one after the other. -/
def bind (surroundings : Variables) (bindings : List Binding) : Keyed String (Option String) :=
  bindings.foldl
    (fun found binding =>
      match binding with
      | none => found
      | some (key, value) =>
        let known : Keyed String (Option String) :=
          Keyed.putAll (surroundings.map fun (name, v) => (name, some v)) found
        found.put key
          (value.map fun v => String.ofList (expand known (v.toList.length + 1) v.toList)))
    []

/-- The variable of the surroundings by which the file is passed over. -/
def disablingVariable : String := "PYTHON_DOTENV_DISABLED"

/-- The values of that variable that count, in small letters. -/
def disablingValues : List String := ["1", "true", "t", "yes", "y"]

/-- Whether the surroundings say that the file is passed over. -/
def isDisabled (surroundings : Variables) : Bool :=
  (surroundings.get? disablingVariable).any fun value => disablingValues.contains (Text.fold value)

/-- Sets a variable. No null character may stand in its name or value, and no equals sign in its name. -/
def set (known : Variables) (key value : String) : Except VariableError Variables :=
  if (key.toList ++ value.toList).contains (Char.ofNat 0) then .error .nullCharacter
  else if key.toList.contains '=' then .error .badName
  else .ok (Keyed.put known key value)

/-- The variables of a call whose file holds the text; the file goes before the surroundings. -/
def withFile (surroundings : Variables) (text : String) : Except VariableError Variables :=
  if isDisabled surroundings then .ok surroundings
  else
    let chars := unified text.toList
    let found := bind surroundings (linesFrom (chars.length + 1) chars)
    (found.filterMap fun (key, value) => value.map fun v => (key, v)).foldlM
      (fun known (key, value) => set known key value) surroundings

end Variables

end Codebook.CommandLine
