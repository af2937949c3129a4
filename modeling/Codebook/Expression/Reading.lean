import Codebook.Expression.Basic
import Codebook.Text.CharName
import Codebook.Text.Numeral
import Codebook.Text.Word

/-!
# Reading expressions

The expression that a text stands for. A backslash and the character after it are read together. Flags at
the beginning of the text hold for all of it, and flags of a part for that part. `width` says how many
characters an expression takes, which matters where it looks behind a place.
-/

namespace Codebook.Expression

/-! ## Flags -/

/-- What the flags of an expression say. -/
structure Flags where
  ignoresCase : Bool
  /-- Whether lines begin and end inside the text. -/
  hasLines : Bool
  anyTakesBreak : Bool
  /-- Whether blanks and comments may stand between the parts. -/
  isSpaced : Bool
  isAscii : Bool
  isUnicode : Bool
  /-- Whether repetitions are forbidden. -/
  isTemplate : Bool
deriving Repr, DecidableEq

namespace Flags

/-- No flags. -/
def none : Flags := ⟨false, false, false, false, false, false, false⟩

/-- The letters for flags. -/
def letters : List Char := "iLmsxatu".toList

/-- The flag of a letter. -/
def ofLetter (c : Char) : Flags :=
  match c with
  | 'i' => { none with ignoresCase := true }
  | 'm' => { none with hasLines := true }
  | 's' => { none with anyTakesBreak := true }
  | 'x' => { none with isSpaced := true }
  | 'a' => { none with isAscii := true }
  | 't' => { none with isTemplate := true }
  | 'u' => { none with isUnicode := true }
  | _ => none

/-- The flags put together from two by an operation on each. -/
def combined (op : Bool → Bool → Bool) (f g : Flags) : Flags :=
  ⟨op f.ignoresCase g.ignoresCase, op f.hasLines g.hasLines, op f.anyTakesBreak g.anyTakesBreak,
    op f.isSpaced g.isSpaced, op f.isAscii g.isAscii, op f.isUnicode g.isUnicode,
    op f.isTemplate g.isTemplate⟩

/-- The flags of either. -/
def joined (f g : Flags) : Flags := combined or f g

/-- The flags of the first that are none of the second. -/
def without (f g : Flags) : Flags := combined (fun a b => a && !b) f g

/-- Whether two have a flag in common. -/
def meet (f g : Flags) : Bool := combined and f g != none

/-- The flags inside a part that turns some on and others off. -/
def inside (f added removed : Flags) : Flags :=
  let kept := if added.isAscii || added.isUnicode then
      { f with isAscii := false, isUnicode := false }
    else f
  (kept.joined added).without removed

/-- How case counts. -/
def caseRule (f : Flags) : CaseRule :=
  if !f.ignoresCase then .exact else if f.isAscii then .asciiFree else .free

end Flags

/-! ## Widths -/

/-- The least and the greatest number of characters that an expression takes. -/
abbrev Width := Nat × Nat

/-- A width that stands for every greater one. -/
def widthLimit : Nat := Nat.pow 2 64

/-- The number that stands for a repetition without an end. -/
def repetitionLimit : Nat := Nat.pow 2 32 - 1

/-- A width cut to the limit. -/
def cut (w : Width) : Width := (min w.1 widthLimit, min w.2 widthLimit)

/-- The width of a part that is repeated. -/
def repeatedWidth (least : Nat) (most : Option Nat) (w : Width) : Width :=
  (w.1 * least,
    match most with
    | some n => w.2 * n
    | none => if w.2 == 0 then 0 else widthLimit)

mutual

/-- How many characters an expression takes; `groups` has the widths of groups. -/
def width (groups : List (Option Width)) : Expression → Width
  | literal .. | among .. | any _ => (1, 1)
  | spot _ | ahead .. | behind .. => (0, 0)
  | sequence parts => cut (sumWidth groups parts)
  | choice parts => cut (choiceWidth groups parts)
  | repeated _ least most part => repeatedWidth least most (width groups part)
  | group _ part | atomic part => width groups part
  | again number _ => ((groups[number]?).bind id).getD (0, 0)
  | conditional _ taken untaken =>
    let (a, b) := width groups taken
    let (c, d) := width groups untaken
    (min a c, max b d)

/-- The width of parts one after the other. -/
def sumWidth (groups : List (Option Width)) : List Expression → Width
  | [] => (0, 0)
  | part :: rest =>
    let (a, b) := width groups part
    let (c, d) := sumWidth groups rest
    (a + c, b + d)

/-- The width of one of several parts. -/
def choiceWidth (groups : List (Option Width)) : List Expression → Width
  | [] => (widthLimit, 0)
  | part :: rest =>
    let (a, b) := width groups part
    let (c, d) := choiceWidth groups rest
    (min a c, max b d)

end

/-! ## The reader -/

/-- What is left of a text, and what is known about its flags and groups. -/
structure Reader where
  text : String
  rest : List Char
  /-- The number of characters that were read. -/
  position : Nat
  flags : Flags
  names : List (String × Nat)
  /-- The widths of groups by their numbers, of those that are over. -/
  groups : List (Option Width)
  /-- The number of groups in front of the outermost part that is looked for behind a place. -/
  behindFrom : Option Nat
  /-- Groups that conditions ask for by number, with the places of the numbers. -/
  asked : List (Nat × Nat)

/-- A step of a reader. -/
abbrev Read (α : Type) := StateT Reader (Except ExpressionFault) α

namespace Reader

/-- Fails at a place so many characters before the next one. -/
def failBefore {α : Type} (cause : ExpressionCause) (count : Nat) : Read α := do
  let r ← get
  throw (.misplaced cause (r.position - count) r.text)

/-- Fails at a place. -/
def failAt {α : Type} (cause : ExpressionCause) (place : Nat) : Read α := do
  throw (.misplaced cause place (← get).text)

/-- The next character, with the one before it if that is a backslash; nothing at the end. -/
def next : Read (List Char) := do
  match (← get).rest with
  | '\\' :: c :: _ => return ['\\', c]
  | c :: _ => return [c]
  | [] => return []

/-- Fails if a backslash alone is left. -/
def checkEnd : Read Unit := do
  let r ← get
  if r.rest == ['\\'] then failAt .endingEscape r.position

/-- Takes what is next. -/
def take : Read (List Char) := do
  let token ← next
  modify fun r =>
    { r with rest := r.rest.drop token.length, position := r.position + token.length }
  checkEnd
  return token

/-- Takes a character if it is next. -/
def takeIf (c : Char) : Read Bool := do
  if (← next) == [c] then
    let _ ← take
    return true
  else return false

/-- Takes characters of a class, at most `count` of them. -/
def takeWhile (isTaken : Char → Bool) : Nat → Read (List Char)
  | 0 => return []
  | count + 1 => do
    match ← next with
    | [c] =>
      if isTaken c then
        let _ ← take
        return c :: (← takeWhile isTaken count)
      else return []
    | _ => return []

/-- Takes what stands before a character, and the character; `what` names it in errors. -/
def takeUntil (stop : Char) (what : String) (read : List Char) : Nat → Read (List Char)
  | 0 => return read
  | fuel + 1 => do
    match ← take with
    | [] =>
      if read.isEmpty then failBefore (.missing what) 0
      else failBefore (.unendingName (String.ofList [stop])) read.length
    | token =>
      if token == [stop] then
        if read.isEmpty then failBefore (.missing what) 1 else return read
      else takeUntil stop what (read ++ token) fuel

/-- Takes a name up to a character. -/
def takeName (stop : Char) (what : String) : Read String := do
  return String.ofList (← takeUntil stop what [] ((← get).rest.length + 1))

/-- Refuses what cannot be the name of a group. -/
def checkName (name : String) : Read Unit := do
  if !Text.isName name.toList then failBefore (.badGroupName name) (name.length + 1)

/-- The number of groups that were begun. -/
def groupCount : Read Nat := do
  return (← get).groups.length

/-- Whether a group is over. -/
def isOver (number : Nat) : Read Bool := do
  return (((← get).groups[number]?).bind id).isSome

/-- Refuses a group that a part which is looked for behind a place may not ask for. -/
def checkBehind (number : Nat) : Read Unit := do
  match (← get).behindFrom with
  | none => return
  | some count =>
    if !(← isOver number) then failBefore .openGroup 0
    if count ≤ number then failBefore .groupInside 0

/-- Begins a group. -/
def beginGroup (name : Option String) : Read Nat := do
  let r ← get
  let number := r.groups.length
  match name with
  | none => set { r with groups := r.groups ++ [none] }
  | some name =>
    match r.names.lookup name with
    | some earlier => failBefore (.repeatedGroup name number earlier) (name.length + 1)
    | none =>
      set { r with groups := r.groups ++ [none], names := (name, number) :: r.names }
  return number

/-- Ends a group. -/
def endGroup (number : Nat) (part : Expression) : Read Unit :=
  modify fun r => { r with groups := r.groups.set number (some (width r.groups part)) }

end Reader

open Reader

/-! ## Escapes -/

/-- Whether a character is an octal digit. -/
def isOctal (c : Char) : Bool := '0' ≤ c && c ≤ '7'

/-- Whether a character is a hexadecimal digit. -/
def isHex (c : Char) : Bool :=
  c.isDigit || ('a' ≤ c && c ≤ 'f') || ('A' ≤ c && c ≤ 'F')

/-- The number that digits stand for in a base. -/
def numberIn (base : Nat) (digits : List Char) : Nat :=
  Text.numberInBase base digits

/-- The codes of the escapes that stand for one control character or a backslash. -/
def plainEscapes : List (Char × Nat) :=
  [('a', 7), ('f', 12), ('n', 10), ('r', 13), ('t', 9), ('v', 11), ('\\', 92)]

/-- The kinds of characters with escapes of their own. -/
def kindEscapes : List (Char × CharKind × Bool) :=
  [
    ('d', .digit, true), ('D', .digit, false), ('s', .blank, true), ('S', .blank, false),
    ('w', .word, true), ('W', .word, false)
  ]

/-- Fails for an escape of which `escape` was read. -/
def failEscape {α : Type} (cause : String → ExpressionCause) (escape : List Char) : Read α :=
  failBefore (cause (String.ofList escape)) escape.length

/-- The code given by so many hexadecimal digits after an escape. -/
def hexEscape (escape : List Char) (count : Nat) : Read Nat := do
  let digits ← takeWhile isHex count
  if digits.length != count then failEscape .incompleteEscape (escape ++ digits)
  let code := numberIn 16 digits
  if Nat.pow 2 31 ≤ code then throw .beyondIndexes
  if 0x110000 ≤ code then failEscape .badEscape (escape ++ digits)
  return code

/-- The code of the character that an escape names. -/
def namedEscape : Read Nat := do
  if !(← takeIf '{') then failBefore (.missing "\x7b") 0
  let name ← takeName '}' "character name"
  match Text.charNamed? name with
  | some code => return code
  | none => failBefore (.unknownCharacter name) (name.length + 4)

/-- The code that an octal escape stands for. -/
def octalEscape (escape : List Char) : Read Nat := do
  let code := numberIn 8 (escape.drop 1)
  if 0xFF < code then failEscape .octalEscape escape
  return code

/-- The code of an escape of a kind that has one everywhere, if it is one of these. -/
def codeEscape? (escape : List Char) : Read (Option Nat) := do
  match escape with
  | ['\\', 'x'] => return some (← hexEscape escape 2)
  | ['\\', 'u'] => return some (← hexEscape escape 4)
  | ['\\', 'U'] => return some (← hexEscape escape 8)
  | ['\\', 'N'] => return some (← namedEscape)
  | _ => return none

/-- The code of a character after a backslash that needs none. -/
def ownEscape (escape : List Char) : Read Nat := do
  match escape with
  | ['\\', c] => if c.isAlpha || c.isDigit then failEscape .badEscape escape else return c.toNat
  | _ => failEscape .badEscape escape

/-- What an escape stands for inside a class. -/
def classEscape (flags : Flags) (escape : List Char) : Read CharRange := do
  let c := (escape.drop 1).head?.getD ' '
  match plainEscapes.lookup c, kindEscapes.lookup c with
  | some code, _ => return .code code
  | none, some (kind, isMet) => return .ofKind kind flags.isAscii isMet
  | none, none =>
    if c == 'b' then return .code 8
    else if let some code ← codeEscape? escape then return .code code
    else if isOctal c then
      return .code (← octalEscape (escape ++ (← takeWhile isOctal 2)))
    else return .code (← ownEscape escape)

/-- The expression that a literal stands for. -/
def literalOf (flags : Flags) (code : Nat) : Expression :=
  .literal code true flags.caseRule

/-- The part that asks for the text of a group. -/
def againOf (flags : Flags) (number : Nat) (length : Nat) : Read Expression := do
  if !(← isOver number) then failBefore .openGroup length
  checkBehind number
  return .again number flags.caseRule

/-- What an escape with digits stands for: a code, or the text of a group. -/
def digitEscape (flags : Flags) (first : Char) : Read Expression := do
  let second ← takeWhile Char.isDigit 1
  let third ← if isOctal first && !second.isEmpty && second.all isOctal then takeWhile isOctal 1
    else pure []
  let escape := '\\' :: first :: (second ++ third)
  if !third.isEmpty then return literalOf flags (← octalEscape escape)
  let number := numberIn 10 (first :: second)
  if number < (← groupCount) then againOf flags number escape.length
  else failBefore (.noGroup number) (escape.length - 1)

/-- What an escape stands for. -/
def escapeOf (flags : Flags) (escape : List Char) : Read Expression := do
  let c := (escape.drop 1).head?.getD ' '
  match c with
  | 'A' => return .spot .textStart
  | 'Z' => return .spot .textEnd
  | 'b' => return .spot (.wordEdge flags.isAscii true)
  | 'B' => return .spot (.wordEdge flags.isAscii false)
  | _ =>
    match kindEscapes.lookup c, plainEscapes.lookup c with
    | some (kind, isMet), _ =>
      return .among [.ofKind kind flags.isAscii isMet] true flags.caseRule
    | none, some code => return literalOf flags code
    | none, none =>
      if let some code ← codeEscape? escape then return literalOf flags code
      else if c == '0' then
        return literalOf flags (numberIn 8 (c :: (← takeWhile isOctal 2)))
      else if c.isDigit then digitEscape flags c
      else return literalOf flags (← ownEscape escape)

/-! ## Classes -/

/-- A character or an escape inside a class. -/
def classItem (flags : Flags) (token : List Char) : Read CharRange := do
  match token with
  | '\\' :: _ => classEscape flags token
  | c :: _ => return .code c.toNat
  | [] => return .code 0

/-- Reads the parts of a class up to its closing bracket; a bracket in front is a part. -/
def classItems (flags : Flags) (start : Nat) (read : List CharRange) : Nat → Read (List CharRange)
  | 0 => return read
  | fuel + 1 => do
    let unending {α : Type} : Read α := failAt .unendingSet start
    let token ← take
    if token.isEmpty then unending
    if token == [']'] && !read.isEmpty then return read
    let first ← classItem flags token
    if ← takeIf '-' then
      let token' ← take
      if token'.isEmpty then unending
      if token' == [']'] then return read ++ [first, .code '-'.toNat]
      let last ← classItem flags token'
      let bad {α : Type} : Read α :=
        failBefore (.badRange (String.ofList token) (String.ofList token'))
          (token.length + 1 + token'.length)
      match first, last with
      | .code a, .code b =>
        if b < a then bad else classItems flags start (read ++ [.codes a b]) fuel
      | _, _ => bad
    else classItems flags start (read ++ [first]) fuel

/-- Reads a class after its opening bracket. -/
def classOf (flags : Flags) : Read Expression := do
  let start := (← get).position - 1
  let isNot ← takeIf '^'
  let items ← classItems flags start [] ((← get).rest.length + 1)
  match items.eraseDups with
  | [.code code] => return .literal code (!isNot) flags.caseRule
  | items => return .among items (!isNot) flags.caseRule

/-! ## Repetitions -/

/-- Reads the counts between braces, if they are counts; else nothing is taken. -/
def counts : Read (Option (Nat × Option Nat)) := do
  let before ← get
  let start := before.position
  let fuel := before.rest.length
  let least ← takeWhile Char.isDigit fuel
  let most ← if ← takeIf ',' then takeWhile Char.isDigit fuel else pure least
  if !(← takeIf '}') then
    set before
    return none
  let number (digits : List Char) : Read (Option Nat) := do
    if digits.isEmpty then return none
    let n := numberIn 10 digits
    if repetitionLimit ≤ n then throw .tooManyRepetitions
    return some n
  let a := (← number least).getD 0
  let b ← number most
  if b.any (· < a) then failAt .wrongCounts start
  return some (a, b)

/-- How much a repetition takes, by the mark after it. -/
def greed : Read Greed := do
  if ← takeIf '?' then return .reluctant
  else if ← takeIf '+' then return .possessive
  else return .greedy

/-- Repeats the last of the parts read; `place` is that of the repetition. -/
def repeatLast (place least : Nat) (most : Option Nat) (read : List Expression) :
    Read (List Expression) := do
  match read with
  | [] | .spot _ :: _ => failAt .nothingRepeated place
  | .repeated .. :: _ => failAt .repeatedTwice place
  | part :: rest => return .repeated (← greed) least most part :: rest

/-! ## Flags in the text -/

/-- Fails for a letter that is no flag. -/
def failFlag {α : Type} (token : List Char) (what : String) : Read α := do
  if token.isEmpty then failBefore (.missing what) 0
  else if token.all Text.isLetter then failBefore .unknownFlag token.length
  else failBefore (.missing what) token.length

/-- Reads the flags that are turned on, and the character after them; `c` is the first. -/
def flagsOn (added : Flags) (c : Char) : Nat → Read (Flags × Char)
  | 0 => return (added, c)
  | fuel + 1 => do
    if c == 'L' then failBefore .localeFlag 0
    let added := added.joined (.ofLetter c)
    if added.isAscii && added.isUnicode then
      if c == 'a' || c == 'u' then failBefore .clashingFlags 0
    match ← take with
    | [c] =>
      if c == ')' || c == '-' || c == ':' then return (added, c)
      else if Flags.letters.contains c then flagsOn added c fuel
      else failFlag [c] "-, : or )"
    | token => failFlag token "-, : or )"

/-- Reads the flags that are turned off, up to a colon; `token` is the first. -/
def flagsOff (removed : Flags) (what : String) (token : List Char) : Nat → Read Flags
  | 0 => return removed
  | fuel + 1 => do
    match token with
    | [c] =>
      if c == ':' && what == ":" then return removed
      if !Flags.letters.contains c then failFlag token what
      if c == 'a' || c == 'u' || c == 'L' then failBefore .kindFlagOff 0
      flagsOff (removed.joined (.ofLetter c)) ":" (← take) fuel
    | _ => failFlag token what

/-- Reads flags of which `c` is the first character; nothing comes back for flags of the whole text. -/
def readFlags (c : Char) : Read (Option (Flags × Flags)) := do
  let fuel := (← get).rest.length + 1
  let (added, c) ← if c == '-' then pure (Flags.none, c) else flagsOn .none c fuel
  if c == ')' then
    modify fun r => { r with flags := r.flags.joined added }
    return none
  if added.isTemplate then failBefore .globalFlagOn 1
  let removed ← if c == '-' then flagsOff .none "flag" (← take) fuel else pure Flags.none
  if removed.isTemplate then failBefore .globalFlagOff 1
  if added.meet removed then failBefore .flagOnAndOff 1
  return some (added, removed)

/-! ## Parts -/

/-- Skips a comment in brackets that begins at a place. -/
def skipComment (start : Nat) : Nat → Read Unit
  | 0 => return
  | fuel + 1 => do
    match ← next with
    | [] => failBefore .unendingComment ((← get).position - start)
    | token =>
      let _ ← take
      if token == [')'] then return else skipComment start fuel

/-- Skips a comment to the end of the line. -/
def skipLine : Nat → Read Unit
  | 0 => return
  | fuel + 1 => do
    let token ← take
    if token.isEmpty || token == ['\n'] then return else skipLine fuel

/-- The number of a group for a condition that names it. -/
def conditionNumber (name : String) : Read Nat := do
  if Text.isName name.toList then
    match (← get).names.lookup name with
    | some number => return number
    | none => failBefore (.unknownGroup name) (name.length + 1)
  else
    match Text.readWhole 10 name with
    | .ok (.ofNat number) =>
      if number == 0 then failBefore .noGroupNumber (name.length + 1)
      if Nat.pow 2 30 - 1 ≤ number then failBefore (.noGroup number) (name.length + 1)
      modify fun r =>
        if r.asked.any fun a => a.1 == number then r
        else { r with asked := r.asked ++ [(number, r.position - name.length - 1)] }
      return number
    | _ => failBefore (.badGroupName name) (name.length + 1)

/-- A part made of parts, the last one first; one alone stands for itself. -/
def sequenceOf (read : List Expression) : Expression :=
  .sequence read.reverse

mutual

/-- Reads alternatives up to a closing bracket or the end. -/
def alternatives (fuel : Nat) (flags : Flags) (isOutermost : Bool) (read : List Expression) :
    Read Expression :=
  match fuel with
  | 0 => return .choice read.reverse
  | fuel + 1 => do
    let part ← parts fuel flags (isOutermost && read.isEmpty) []
    if ← takeIf '|' then
      let r ← get
      let flags := if isOutermost then r.flags else flags
      alternatives fuel flags isOutermost (part :: read)
    else
      match read with
      | [] => return part
      | _ => return .choice (part :: read).reverse

/-- Reads parts up to a bar, a closing bracket or the end; `read` holds those read, the last first. -/
def parts (fuel : Nat) (flags : Flags) (isFirst : Bool) (read : List Expression) :
    Read Expression :=
  match fuel with
  | 0 => return sequenceOf read
  | fuel + 1 => do
    let token ← next
    if token.isEmpty || token == ['|'] || token == [')'] then return sequenceOf read
    let place := (← get).position
    let _ ← take
    let go (part : Expression) := parts fuel flags isFirst (part :: read)
    let again (least : Nat) (most : Option Nat) := do
      parts fuel flags isFirst (← repeatLast place least most read)
    match token with
    | '\\' :: _ => go (← escapeOf flags token)
    | c :: _ =>
      if flags.isSpaced && " \t\n\r\x0b\x0c".toList.contains c then parts fuel flags isFirst read
      else if flags.isSpaced && c == '#' then
        skipLine ((← get).rest.length + 1)
        parts fuel flags isFirst read
      else
        match c with
        | '[' => go (← classOf flags)
        | '.' => go (.any flags.anyTakesBreak)
        | '^' => go (.spot (if flags.hasLines then .lineStart else .textStart))
        | '$' => go (.spot (if flags.hasLines then .lineEnd else .lastLineEnd))
        | '?' => again 0 (some 1)
        | '*' => again 0 none
        | '+' => again 1 none
        | '{' =>
          if (← next) == ['}'] then go (literalOf flags c.toNat)
          else
            match ← counts with
            | some (least, most) => again least most
            | none => go (literalOf flags c.toNat)
        | '(' =>
          if ← takeIf '?' then special fuel flags isFirst read place
          else go (← captured fuel flags none place)
        | _ => go (literalOf flags c.toNat)
    | [] => return sequenceOf read

/-- Reads a group after what stands in front of its parts. -/
def captured (fuel : Nat) (flags : Flags) (name : Option String) (place : Nat) :
    Read Expression :=
  match fuel with
  | 0 => return .sequence []
  | fuel + 1 => do
    let number ← beginGroup name
    let part ← alternatives fuel flags false []
    if !(← takeIf ')') then failAt .unendingPart place
    endGroup number part
    return .group number part

/-- Reads alternatives and the bracket that closes them. -/
def closed (fuel : Nat) (flags : Flags) (place : Nat) : Read Expression :=
  match fuel with
  | 0 => return .sequence []
  | fuel + 1 => do
    let part ← alternatives fuel flags false []
    if !(← takeIf ')') then failAt .unendingPart place
    return part

/-- Reads a condition on a place: what is met there, or behind it. -/
def look (fuel : Nat) (flags : Flags) (isMet isBehind : Bool) (place : Nat) : Read Expression :=
  match fuel with
  | 0 => return .sequence []
  | fuel + 1 => do
    let before := (← get).behindFrom
    if isBehind && before.isNone then
      modify fun r => { r with behindFrom := some r.groups.length }
    let part ← alternatives fuel flags false []
    if isBehind && before.isNone then modify fun r => { r with behindFrom := none }
    if !(← takeIf ')') then failAt .unendingPart place
    if isBehind then
      let (least, most) := width (← get).groups part
      return .behind isMet least most part
    else return .ahead isMet part

/-- Reads a part that depends on whether a group took a text. -/
def choiceByGroup (fuel : Nat) (flags : Flags) (place : Nat) : Read Expression :=
  match fuel with
  | 0 => return .sequence []
  | fuel + 1 => do
    let number ← conditionNumber (← takeName ')' "group name")
    checkBehind number
    let taken ← parts fuel flags false []
    let untaken ←
      if ← takeIf '|' then
        let part ← parts fuel flags false []
        if (← next) == ['|'] then failBefore .thirdBranch 0
        pure part
      else pure (.sequence [])
    if !(← takeIf ')') then failAt .unendingPart place
    return .conditional number taken untaken

/-- Reads a part in brackets after the question mark that says that it is special. -/
def special (fuel : Nat) (flags : Flags) (isFirst : Bool) (read : List Expression) (place : Nat) :
    Read Expression :=
  match fuel with
  | 0 => return sequenceOf read
  | fuel + 1 => do
    let go (part : Expression) := parts fuel flags isFirst (part :: read)
    let extension {α : Type} (start token : List Char) : Read α :=
      if token.isEmpty then failBefore .unexpectedEnd 0
      else failBefore (.unknownExtension (String.ofList (start ++ token))) (token.length + start.length)
    match ← take with
    | ['P'] =>
      if ← takeIf '<' then
        let name ← takeName '>' "group name"
        checkName name
        go (← captured fuel flags (some name) place)
      else if ← takeIf '=' then
        let name ← takeName ')' "group name"
        checkName name
        match (← get).names.lookup name with
        | some number => go (← againOf flags number (name.length + 1))
        | none => failBefore (.unknownGroup name) (name.length + 1)
      else extension ['?', 'P'] (← take)
    | [':'] => go (.sequence [← closed fuel flags place])
    | ['#'] =>
      skipComment place ((← get).rest.length + 1)
      parts fuel flags isFirst read
    | ['='] => go (← look fuel flags true false place)
    | ['!'] => go (← look fuel flags false false place)
    | ['<'] =>
      match ← take with
      | ['='] => go (← look fuel flags true true place)
      | ['!'] => go (← look fuel flags false true place)
      | token => extension ['?', '<'] token
    | ['('] => go (← choiceByGroup fuel flags place)
    | ['>'] => go (.atomic (← closed fuel flags place))
    | [c] =>
      if Flags.letters.contains c || c == '-' then
        match ← readFlags c with
        | none =>
          if !isFirst || !read.isEmpty then failAt .lateFlags place
          parts fuel (← get).flags isFirst read
        | some (added, removed) =>
          go (.sequence [← closed fuel (flags.inside added removed) place])
      else extension ['?'] [c]
    | token => extension ['?'] token

end

/-! ## Whole expressions -/

mutual

/-- What is wrong with a well-formed expression, if anything: what it looks for behind a place has to take
one number of characters, and there may be a flag that forbids repetitions. -/
def fault? (isTemplate : Bool) : Expression → Option ExpressionFault
  | literal .. | among .. | any _ | spot _ | again .. => none
  | sequence parts | choice parts => faultOf? isTemplate parts
  | repeated greed _ _ part => if isTemplate then some (.forbidden greed) else fault? isTemplate part
  | group _ part | atomic part | ahead _ part => fault? isTemplate part
  | conditional _ taken untaken => (fault? isTemplate taken).or (fault? isTemplate untaken)
  | behind _ least most part =>
    if repetitionLimit < least then some .tooFarBehind
    else if least != most then some .varyingWidth
    else fault? isTemplate part

/-- What is wrong with the first of several parts with which something is. -/
def faultOf? (isTemplate : Bool) : List Expression → Option ExpressionFault
  | [] => none
  | part :: rest => (fault? isTemplate part).or (faultOf? isTemplate rest)

end

/-- The class that a single character or class is, with its rule for case. -/
def singleClass? : Expression → Option (List CharRange × CaseRule)
  | .sequence [literal code true rule] => some ([.code code], rule)
  | .sequence [among ranges true rule] => some (ranges, rule)
  | _ => none

mutual

/-- The class of characters with which an expression begins, if it begins with one, and whether the
character has to be of the class. Single characters and classes as alternatives make up one class. -/
def leadingClass? : Expression → Option (List CharRange × Bool × CaseRule)
  | among ranges isMet rule => some (ranges, isMet, rule)
  | choice parts => do
    let classes ← parts.mapM singleClass?
    let (_, rule) ← classes.head?
    return (classes.flatMap Prod.fst, true, rule)
  | sequence parts => leadingClassOf? parts
  | group _ part => leadingClass? part
  | _ => none

/-- The class of characters with which several parts begin. -/
def leadingClassOf? : List Expression → Option (List CharRange × Bool × CaseRule)
  | [] => none
  | .sequence [] :: rest => leadingClassOf? rest
  | part :: _ => leadingClass? part

end

/-- A part of a class with its kind limited to ASCII or not. -/
def withAscii (isAscii : Bool) : CharRange → CharRange
  | .ofKind kind _ isMet => .ofKind kind isAscii isMet
  | other => other

/-- Whether case plays a part for some code of a part of a class. -/
def hasCase (rule : CaseRule) : CharRange → Bool
  | .code n => rule.hasCase (Char.ofNat n)
  | .codes first last =>
    0xFFFF < last || (List.range (last - first + 1)).any fun n => rule.hasCase (Char.ofNat (first + n))
  | .ofKind .. => false

/-- The expression, which may only be met from a character on that is of its leading class also by the
flags of the whole text. -/
def guarded (isAscii : Bool) (groups : List (Option Width)) (e : Expression) : Expression :=
  match leadingClass? e with
  | some (ranges, isMet, rule) =>
    let wanted := ranges.map (withAscii isAscii)
    if wanted == ranges || ranges.any (hasCase rule) || (width groups e).1 == 0 then e
    else .sequence [.ahead true (.among wanted isMet .exact), e]
  | none => e

/-- Reads a whole text. -/
def whole : Read Expression := do
  checkEnd
  let e ← alternatives (4 * (← get).rest.length + 4) .none true []
  let r ← get
  if r.flags.isAscii && r.flags.isUnicode then throw .bothCharacterSets
  if (← next) != [] then failBefore .unbalanced 0
  match r.asked.find? fun a => r.groups.length ≤ a.1 with
  | some (number, place) => failAt (.noGroup number) place
  | none =>
    match fault? r.flags.isTemplate e with
    | some fault => throw fault
    | none => return guarded r.flags.isAscii r.groups e

/-- The expression that a text stands for. -/
def ofText (text : String) : Except ExpressionFault Expression :=
  (whole.run ⟨text, text.toList, 0, .none, [], [none], none, []⟩).map Prod.fst

end Codebook.Expression
