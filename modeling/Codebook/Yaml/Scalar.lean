import Codebook.Yaml.Source
import Codebook.Yaml.Token

/-!
# Scalars in a text

Scalars without quotes, between quotes, and in blocks of lines. Line breaks inside the first two are
folded: one line feed counts as a space, and of several the first is dropped. A block keeps its lines,
or folds those that neither are empty nor begin with a blank. The functions read characters into a list
that holds the last one first.
-/

namespace Codebook.Yaml

/-- The characters that a line break and those after it stand for once they are folded, the last one
first; `breaks` holds those after it, the last one first. -/
def folded (first : Char) (breaks : List Char) : List Char :=
  if first != '\n' then breaks ++ [first]
  else if breaks.isEmpty then [' ']
  else breaks

/-! ## Scalars without quotes -/

/-- Whether a scalar without quotes ends before a character; `next` follows the character. -/
def endsPlain (inFlow : Bool) (c next : Char) : Bool :=
  endsWord c || (c == ':' && (endsWord next || (inFlow && ",[]\x7b\x7d".toList.contains next)))
    || (inFlow && ",?[]\x7b\x7d".toList.contains c)

/-- Whether a scalar without quotes may begin with a character; `next` follows the character. -/
def beginsPlain (inFlow : Bool) (c next : Char) : Bool :=
  !(endsWord c || "-?:,[]\x7b\x7d#&*!|>'\"%@`".toList.contains c)
    || (!endsWord next && (c == '-' || (!inFlow && (c == '?' || c == ':'))))

/-- Reads the characters of a scalar without quotes up to a gap in it. -/
def plainRun (inFlow : Bool) : List Char → List Char
  | [] => []
  | c :: rest =>
    if endsPlain inFlow c (rest.head?.getD endMark) then [] else c :: plainRun inFlow rest

/-- Reads spaces and line breaks after a first line break. Nothing is found if a mark of a document
comes among them. -/
def plainBreaks (fuel : Nat) (read : List Char) (s : Source) : Option (List Char) × Source :=
  match fuel with
  | 0 => (none, s)
  | fuel + 1 =>
    if s.column == 0 && s.isBoundary then (none, s)
    else
      let s := s.skipSpaces
      match s.takeBreak? with
      | some (c, after) => plainBreaks fuel (c :: read) after
      | none => (some read, s)

/-- Reads the gap between two runs of a scalar without quotes: what it stands for, the last character
first, and whether a line break is in it. -/
def plainGap (s : Source) : List Char × Bool × Source :=
  let (spaces, after) := s.span (· == ' ')
  match after.takeBreak? with
  | some (c, after) =>
    match plainBreaks (after.rest.length + 1) [] after with
    | (some breaks, after) => (folded c breaks, true, after)
    | (none, after) => ([], true, after)
  | none => (spaces, false, after)

/-- A scalar that was read, the last character first, and whether a line break was the last thing
before the end of reading. -/
structure PlainScalar where
  read : List Char
  afterBreak : Bool
  source : Source

/-- Reads a scalar without quotes that stands to the right of the column `indent`. -/
def plainFrom (inFlow : Bool) (indent : Int) (fuel : Nat) (gap : List Char) (so : PlainScalar) :
    PlainScalar :=
  match fuel with
  | 0 => so
  | fuel + 1 =>
    let run := if so.source.head == '#' then [] else plainRun inFlow so.source.rest
    if run.isEmpty then so
    else
      let (gap', broken, after) := plainGap (so.source.drop run.length)
      let so : PlainScalar := ⟨run.reverse ++ (gap ++ so.read), broken, after⟩
      if gap'.isEmpty || after.head == '#' || (!inFlow && (after.column : Int) ≤ indent) then so
      else plainFrom inFlow indent fuel gap' so

/-- The scalar without quotes at the beginning of a source. -/
def plainScalar (inFlow : Bool) (indent : Int) (s : Source) : PlainScalar :=
  plainFrom inFlow indent (s.rest.length + 1) [] ⟨[], false, s⟩

/-! ## Scalars between quotes -/

/-- The characters that a backslash and one character stand for. -/
def escapes : List (Char × Nat) :=
  [
    ('0', 0), ('a', 7), ('b', 8), ('t', 9), ('\t', 9), ('n', 10), ('v', 11), ('f', 12), ('r', 13),
    ('e', 0x1B), (' ', 0x20), ('"', 0x22), ('\\', 0x5C), ('/', 0x2F), ('N', 0x85), ('_', 0xA0),
    ('L', 0x2028), ('P', 0x2029)
  ]

/-- The count of hexadecimal digits after a backslash and one character. -/
def codeLengths : List (Char × Nat) :=
  [('x', 2), ('u', 4), ('U', 8)]

/-- The number that hexadecimal digits stand for. -/
def hexNumber? (chars : List Char) : Option Nat :=
  if chars.all fun c => (Text.digitValue? 16 c).isSome && c.toNat < 0x80 then
    some (Text.numberInBase 16 chars)
  else none

/-- The character with a number. -/
def charOfCode (code : Nat) : Except Error Char :=
  if Nat.pow 2 31 ≤ code then .error (.fault .beyondIndexes)
  else if 0x110000 ≤ code then .error (.fault .beyondCharacters)
  else .ok (Char.ofNat code)

/-- Reads blanks and line breaks between quotes after a first line break. A mark of a document may not
come among them. -/
def quotedBreaks (fuel : Nat) (read : List Char) (s : Source) : Except Error (List Char × Source) :=
  match fuel with
  | 0 => .error .malformed
  | fuel + 1 =>
    if s.isBoundary then .error .malformed
    else
      let s := s.skip fun c => c == ' ' || c == '\t'
      match s.takeBreak? with
      | some (c, after) => quotedBreaks fuel (c :: read) after
      | none => .ok (read, s)

/-- Reads what follows a backslash. -/
def escaped (read : List Char) (s : Source) : Except Error (List Char × Source) :=
  match escapes.lookup s.head, codeLengths.lookup s.head with
  | some code, _ => .ok (Char.ofNat code :: read, s.next)
  | none, some length =>
    let digits := s.next.rest.take length
    match hexNumber? digits with
    | some code =>
      if digits.length < length then .error .malformed
      else (charOfCode code).map fun c => (c :: read, s.next.drop length)
    | none => .error .malformed
  | none, none =>
    match s.takeBreak? with
    | some (_, after) => quotedBreaks (after.rest.length + 1) read after
    | none => .error .malformed

/-- Reads the rest of a scalar between quotes, the closing quote included. -/
def quotedFrom (double : Bool) (fuel : Nat) (read : List Char) (s : Source) :
    Except Error (List Char × Source) :=
  match fuel with
  | 0 => .error .malformed
  | fuel + 1 =>
    let c := s.head
    if c == endMark then .error .malformed
    else if c == ' ' || c == '\t' || isBreak c then
      let (blanks, after) := s.span fun c => c == ' ' || c == '\t'
      match after.takeBreak? with
      | some (c, after) => do
        let (breaks, after) ← quotedBreaks (after.rest.length + 1) [] after
        quotedFrom double fuel (folded c breaks ++ read) after
      | none =>
        if after.head == endMark then .error .malformed
        else quotedFrom double fuel (blanks.reverse ++ read) after
    else if double && c == '\\' then do
      let (read, after) ← escaped read s.next
      quotedFrom double fuel read after
    else if !double && c == '\'' && s.peek 1 == '\'' then
      quotedFrom double fuel ('\'' :: read) (s.drop 2)
    else if c == (if double then '"' else '\'') then .ok (read, s.next)
    else quotedFrom double fuel (c :: read) s.next

/-- The scalar between quotes at the beginning of a source. -/
def quotedScalar (double : Bool) (s : Source) : Except Error (String × Source) :=
  (quotedFrom double (s.rest.length + 1) [] s.next).map fun (read, after) =>
    (String.ofList read.reverse, after)

/-! ## Scalars in blocks of lines -/

/-- What becomes of the line breaks at the end of a block. -/
inductive Closing where
  | oneKept
  | allKept
  | noneKept
deriving DecidableEq

/-- Reads the mark of what becomes of the closing line breaks. -/
def closing? (s : Source) : Option (Closing × Source) :=
  if s.head == '+' then some (.allKept, s.next)
  else if s.head == '-' then some (.noneKept, s.next)
  else none

/-- Reads the mark of the indentation, a digit above zero. -/
def step? (s : Source) : Except Error (Option Nat × Source) :=
  if s.head.isDigit then
    if s.head == '0' then .error .malformed else .ok (some (s.head.toNat - '0'.toNat), s.next)
  else .ok (none, s)

/-- Reads the line at the top of a block: a mark of each kind, in either order, and a comment. -/
def blockHeader (s : Source) : Except Error (Closing × Option Nat × Source) := do
  let (closing, step, s) ←
    match closing? s with
    | some (closing, s) => (step? s).map fun (step, s) => (closing, step, s)
    | none => do
      let (step, s) ← step? s
      match step.isSome, closing? s with
      | true, some (closing, s) => pure (closing, step, s)
      | _, _ => pure (.oneKept, step, s)
  if !endsName s.head then .error .malformed
  else
    let s := s.skipSpaces.skipComment
    if endsLine s.head then .ok (closing, step, s.skipBreak) else .error .malformed

/-- The source after spaces that lie to the left of a column. -/
def skipIndent (column : Nat) (s : Source) : Source :=
  s.drop (min (s.rest.takeWhile (· == ' ')).length (column - s.column))

/-- Reads empty lines; `read` holds their line breaks, the last one first. -/
def emptyLines (indent fuel : Nat) (read : List Char) (s : Source) : List Char × Source :=
  match fuel with
  | 0 => (read, s)
  | fuel + 1 =>
    let s := skipIndent indent s
    match s.takeBreak? with
    | some (c, after) => emptyLines indent fuel (c :: read) after
    | none => (read, s)

/-- Reads empty lines and spaces before the first line of a block: the line breaks, the last one first,
and the column of the rightmost space passed. -/
def leadingLines (fuel : Nat) (read : List Char) (widest : Nat) (s : Source) :
    List Char × Nat × Source :=
  match fuel with
  | 0 => (read, widest, s)
  | fuel + 1 =>
    let s := s.skipSpaces
    let widest := max widest s.column
    match s.takeBreak? with
    | some (c, after) => leadingLines fuel (c :: read) widest after
    | none => (read, widest, s)

/-- Reads the lines of a block whose indentation is known. `breaks` holds the line breaks of the empty
lines before, and `read` ends with the line break of the last line, if that is not yet decided. -/
def blockLines (isFolded : Bool) (closing : Closing) (indent fuel : Nat) (breaks read : List Char)
    (s : Source) : List Char × Source :=
  match fuel with
  | 0 => (read, s)
  | fuel + 1 =>
    let isBlank (c : Char) : Bool := c == ' ' || c == '\t'
    let begins (s : Source) : Bool := s.column == indent && s.head != endMark
    if !begins s then ((if closing == .allKept then breaks else []) ++ read, s)
    else
      let (line, after) := s.span fun c => !endsLine c
      let text := line.reverse ++ (breaks ++ read)
      let (lineBreak, after) :=
        match after.takeBreak? with
        | some (c, after) => ([c], after)
        | none => ([], after)
      let (breaks, after) := emptyLines indent (after.rest.length + 1) [] after
      if begins after then
        let joined :=
          if isFolded && lineBreak == ['\n'] && !isBlank s.head && !isBlank after.head then
            if breaks.isEmpty then [' '] else []
          else lineBreak
        blockLines isFolded closing indent fuel breaks (joined ++ text) after
      else
        let kept := if closing == .noneKept then text else lineBreak ++ text
        ((if closing == .allKept then breaks else []) ++ kept, after)

/-- The scalar in a block of lines at the beginning of a source; `indent` is the column of the
collection around it. -/
def blockScalar (indent : Int) (s : Source) : Except Error (String × Source) := do
  let isFolded := s.head == '>'
  let (closing, step, s) ← blockHeader s.next
  let least := max 1 (indent + 1).toNat
  let fuel := s.rest.length + 1
  let (read, after) :=
    match step with
    | some step =>
      let column := least + step - 1
      let (breaks, s) := emptyLines column fuel [] s
      blockLines isFolded closing column fuel breaks [] s
    | none =>
      let (breaks, widest, s) := leadingLines fuel [] 0 s
      blockLines isFolded closing (max least widest) fuel breaks [] s
  return (String.ofList read.reverse, after)

end Codebook.Yaml
