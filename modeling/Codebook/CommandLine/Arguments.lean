import Codebook.Export.Bundle
import Codebook.Export.FileTree
import Codebook.Text.Digit
import Codebook.Text.Quoted

/-!
# Arguments

The arguments of a call name a workbook and may hold options, in any order. The name of an option may
be cut short as long as only one option begins that way, and its value may follow an equals sign.
After two dashes no argument is an option. Arguments are first told apart from left to right, where a
cut name that fits several options is refused, and then read from left to right.
-/

namespace Codebook.CommandLine

/-! ## Options -/

/-- An option of a call. -/
inductive Switch where
  | help
  | config
  | platform
  | outputDir
  | noArchive
  | debug
  | inspectData
deriving Repr, DecidableEq

namespace Switch

/-- The names of the options. -/
def names : List (String × Switch) :=
  [
    ("-h", help), ("--help", help), ("--config", config), ("--platform", platform),
    ("--output-dir", outputDir), ("--no-archive", noArchive), ("--debug", debug),
    ("--inspect-data", inspectData)
  ]

/-- The name of an option in messages. -/
def title (o : Switch) : String :=
  "/".intercalate ((names.filter fun (_, other) => other == o).map Prod.fst)

/-- Whether an option has a value. -/
def takesValue : Switch → Bool
  | config | platform | outputDir => true
  | _ => false

end Switch

/-- What is written in one argument together with the name of an option. -/
inductive Attached where
  | nothing
  /-- A value after an equals sign. -/
  | value (text : String)
  /-- Characters right after an option of one letter. -/
  | letters (text : String)
deriving Repr, DecidableEq

/-- What an argument is. -/
inductive Word where
  | operand (text : String)
  /-- The two dashes after which no argument is an option. -/
  | separator
  | option (o : Switch) (attached : Attached)
  /-- An option that there is not. -/
  | unknown (text : String)
deriving Repr, DecidableEq

namespace Word

/-- A word as it is written, where it is left over. -/
def text : Word → String
  | operand text => text
  | separator => "--"
  | option o _ => o.title
  | unknown text => text

end Word

/-- Why a call ends before it has begun. -/
inductive Stop where
  | help
  | misuse (message : String)
deriving Repr, DecidableEq

/-! ## Telling arguments apart -/

/-- Splits an argument at its first equals sign. -/
def splitValue (chars : List Char) : List Char × Option (List Char) :=
  match chars.dropWhile (· != '=') with
  | _ :: value => (chars.takeWhile (· != '='), some value)
  | [] => (chars, none)

/-- The options whose names begin like a long argument, with its value. -/
def longMatches (chars : List Char) : List (String × Word) :=
  let (cut, value) := splitValue chars
  let attached : Attached :=
    match value with
    | some v => .value (String.ofList v)
    | none => .nothing
  (Switch.names.filter fun (name, _) => cut.isPrefixOf name.toList).map fun (name, o) =>
    (name, .option o attached)

/-- The options of one letter that an argument with one dash begins with. -/
def shortMatches (chars : List Char) : List (String × Word) :=
  (Switch.names.filter fun (name, _) => name.toList == chars.take 2).map fun (name, o) =>
    (name, .option o (.letters (String.ofList (chars.drop 2))))

/-- Whether an argument reads as a negative number. -/
def isNegativeNumber (chars : List Char) : Bool :=
  let chars := if chars.getLast? == some '\n' then chars.dropLast else chars
  match chars with
  | '-' :: body =>
    let fraction := body.dropWhile Text.isDecimal
    (fraction.isEmpty && !body.isEmpty)
      || (fraction.head? == some '.' && 1 < fraction.length
        && (fraction.drop 1).all Text.isDecimal)
  | _ => false

/-- Tells what an argument with a dash in front is when its name is no full name of an option. -/
def wordOfCut (arg : String) : Except Stop Word :=
  let chars := arg.toList
  let found := if "--".toList.isPrefixOf chars then longMatches chars else shortMatches chars
  match found with
  | [(_, word)] => .ok word
  | [] =>
    if isNegativeNumber chars || chars.contains ' ' then .ok (.operand arg) else .ok (.unknown arg)
  | _ =>
    .error (.misuse ("ambiguous option: " ++ arg ++ " could match "
      ++ ", ".intercalate (found.map Prod.fst)))

/-- What the text after an equals sign is to an option with a name: after an option of one letter it
reads like more letters, unless it is empty. -/
def attachedTo (name : List Char) (value : List Char) : Attached :=
  if "--".toList.isPrefixOf name || value.isEmpty then .value (String.ofList value)
  else .letters (String.ofList value)

/-- Tells what an argument is. -/
def wordOf (arg : String) : Except Stop Word :=
  match arg.toList with
  | '-' :: _ :: _ =>
    match Switch.names.lookup arg with
    | some o => .ok (.option o .nothing)
    | none =>
      let (name, value) := splitValue arg.toList
      match Switch.names.lookup (String.ofList name), value with
      | some o, some v => .ok (.option o (attachedTo name v))
      | _, _ => wordOfCut arg
  | _ => .ok (.operand arg)

/-- Tells what the arguments are. -/
def wordsOf : List String → Except Stop (List Word)
  | [] => .ok []
  | arg :: rest =>
    if arg == "--" then .ok (.separator :: rest.map .operand)
    else do
      let word ← wordOf arg
      return word :: (← wordsOf rest)

/-! ## Reading -/

/-- What the arguments ask for. -/
structure Arguments where
  workbook : Option Path
  config : Option Path
  platform : Option Platform
  outputDirectory : Option Path
  noArchive : Bool
  debug : Bool
  inspect : Bool
  /-- The arguments that nothing was made of. -/
  leftOver : List String
deriving Repr, DecidableEq

namespace Arguments

/-- A call that asks for nothing. -/
def none : Arguments := ⟨.none, .none, .none, .none, false, false, false, []⟩

/-- A misuse of an option. -/
def misuse {α : Type} (o : Switch) (message : String) : Except Stop α :=
  .error (.misuse ("argument " ++ o.title ++ ": " ++ message))

/-- The refusal of what is written together with an option that has no value. -/
def ignored {α : Type} (o : Switch) (text : String) : Except Stop α :=
  misuse o ("ignored explicit argument " ++ Text.quoted text)

/-- Checks the characters after an option of one letter that has no value: the same letter may come
again, and anything else is refused together with what follows it. -/
def checkLetters (o : Switch) (letter : Char) : List Char → Except Stop Unit
  | [] => .ok ()
  | c :: rest =>
    if c == letter then checkLetters o letter rest else ignored o (String.ofList (c :: rest))

/-- Takes an option that has no value. -/
def withFlag (a : Arguments) (o : Switch) (attached : Attached) : Except Stop Arguments := do
  match attached with
  | .nothing => .ok ()
  | .value text => ignored o text
  | .letters text => checkLetters o 'h' text.toList
  match o with
  | .help => .error .help
  | .noArchive => return { a with noArchive := true }
  | .debug => return { a with debug := true }
  | .inspectData => return { a with inspect := true }
  | _ => return a

/-- Takes an option with its value. -/
def withValue (a : Arguments) (o : Switch) (value : String) : Except Stop Arguments :=
  match o with
  | .config => .ok { a with config := some (Path.ofText value) }
  | .outputDir => .ok { a with outputDirectory := some (Path.ofText value) }
  | .platform =>
    match Platform.ofName? value with
    | some p => .ok { a with platform := some p }
    | .none =>
      misuse o ("invalid choice: " ++ Text.quoted value ++ " (choose from "
        ++ ", ".intercalate ([Platform.dimensions, .ifield].map fun p => Text.quoted p.name) ++ ")")
  | _ => .ok a

/-- Takes an argument that is no option. -/
def withOperand (a : Arguments) (text : String) : Arguments :=
  match a.workbook with
  | .none => { a with workbook := some (Path.ofText text) }
  | some _ => { a with leftOver := a.leftOver ++ [text] }

/-- The words after an operand that was taken as the workbook: two dashes right after it are part of
it. -/
def afterOperand (a : Arguments) (rest : List Word) : List Word :=
  match a.workbook, rest with
  | .none, .separator :: more => more
  | _, _ => rest

theorem afterOperand_length (a : Arguments) (rest : List Word) :
    (a.afterOperand rest).length ≤ rest.length := by
  fun_cases afterOperand a rest <;> simp

/-- Reads words on top of what was read before them. -/
def readFrom (a : Arguments) (words : List Word) : Except Stop Arguments :=
  match words with
  | [] => .ok a
  | .operand text :: rest => readFrom (a.withOperand text) (a.afterOperand rest)
  | .separator :: rest =>
    if a.workbook.isNone && !rest.isEmpty then readFrom a rest
    else readFrom { a with leftOver := a.leftOver ++ ["--"] } rest
  | .unknown text :: rest => readFrom { a with leftOver := a.leftOver ++ [text] } rest
  | .option o (.value text) :: rest => do
    if o.takesValue then readFrom (← a.withValue o text) rest
    else readFrom (← a.withFlag o (.value text)) rest
  | .option o attached :: .operand text :: rest => do
    if o.takesValue then readFrom (← a.withValue o text) rest
    else readFrom (← a.withFlag o attached) (.operand text :: rest)
  | .option o attached :: rest => do
    if o.takesValue then misuse o "expected one argument"
    else readFrom (← a.withFlag o attached) rest
termination_by words.length
decreasing_by
  · exact Nat.lt_succ_of_le (afterOperand_length ..)
  all_goals simp only [List.length_cons]
  all_goals omega

/-- Reads the arguments of a call. -/
def parse (args : List String) : Except Stop Arguments := do
  let a ← readFrom none (← wordsOf args)
  if a.workbook.isNone then
    .error (.misuse "the following arguments are required: workbook")
  else if !a.leftOver.isEmpty then
    .error (.misuse ("unrecognized arguments: " ++ " ".intercalate a.leftOver))
  else return a

end Arguments

end Codebook.CommandLine
