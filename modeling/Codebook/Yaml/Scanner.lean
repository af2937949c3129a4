import Codebook.Yaml.Mark

/-!
# Tokens of a text

A scanner takes one token after the other from a source. In block style the columns tell where a
collection begins and ends, so the scanner holds the columns of the collections it is in. A node may turn
out to be a key when a colon follows it, so the scanner remembers, for each depth of brackets, the last
place where a key may have begun: on the same line, at most 1024 characters back. At the beginning of a
line of a mapping there has to be one.
-/

namespace Codebook.Yaml

/-- A place where a key may have begun. -/
structure PossibleKey where
  /-- The number of tokens before it. -/
  token : Nat
  /-- Whether a colon has to follow. -/
  isRequired : Bool
  index : Nat
  line : Nat
  column : Nat

/-- The greatest distance between the beginning of a key and its colon. -/
def keyReach : Nat := 1024

/-- A text of which some tokens are taken. -/
structure Scanner where
  source : Source
  tokens : Array Token
  /-- The number of brackets and braces that are open. -/
  depth : Nat
  /-- The column of the innermost collection in block style. -/
  indent : Int
  /-- The columns of the collections around it. -/
  outer : List Int
  /-- Whether a key may begin here. -/
  keyAllowed : Bool
  /-- The places where keys may have begun, by the depth of brackets. -/
  keys : List (Nat × PossibleKey)

namespace Scanner

/-- The scanner before the first token. -/
def ofText (text : String) : Scanner :=
  ⟨Source.ofText text, #[], 0, -1, [], true, []⟩

/-- Whether the scanner is between brackets or braces. -/
def inFlow (s : Scanner) : Bool :=
  s.depth != 0

/-- The scanner with one more token. -/
def push (s : Scanner) (token : Token) : Scanner :=
  { s with tokens := s.tokens.push token }

/-- The scanner with a token put before those from a place on. -/
def insert (s : Scanner) (place : Nat) (token : Token) : Scanner :=
  { s with tokens := s.tokens.extract 0 place ++ #[token] ++ s.tokens.extract place s.tokens.size }

/-- The scanner with a token for some characters at the beginning of its source. -/
def take (s : Scanner) (token : Token) (length : Nat) : Scanner :=
  { s.push token with source := s.source.drop length }

/-! ## Columns -/

/-- The scanner once the collections to the right of a column are over; between brackets columns do not
count. -/
def unwind (column : Int) (s : Scanner) : Scanner :=
  if s.inFlow then s
  else
    let ended := (s.indent :: s.outer).takeWhile (column < ·)
    match (s.indent :: s.outer).drop ended.length with
    | indent :: outer =>
      { s with tokens := s.tokens ++ ended.map fun _ => Token.blockEnd, indent := indent, outer := outer }
    | [] => s

/-- The scanner in a collection at a column, unless it is in one there, and whether that is new. -/
def enter (column : Nat) (s : Scanner) : Bool × Scanner :=
  if s.indent < column then (true, { s with indent := column, outer := s.indent :: s.outer })
  else (false, s)

/-- The scanner in a collection at its own column, with a token for its beginning if it is new. -/
def begin (token : Token) (s : Scanner) : Scanner :=
  match s.enter s.source.column with
  | (true, s) => s.push token
  | (false, s) => s

/-! ## Possible keys -/

/-- Whether a place is on another line or too far back. -/
def isStale (s : Scanner) (key : PossibleKey) : Bool :=
  key.line != s.source.line || keyReach < s.source.index - key.index

/-- The scanner without the places that are on another line or too far back. -/
def dropStale (s : Scanner) : Except Error Scanner :=
  if s.keys.any fun k => s.isStale k.2 && k.2.isRequired then .error .malformed
  else .ok { s with keys := s.keys.filter fun k => !s.isStale k.2 }

/-- The number of tokens before the first place where a key may still turn out to have begun; `count`
is the number of all tokens. -/
def settled (s : Scanner) (count : Nat) : Nat :=
  s.keys.foldl (fun least k => if s.isStale k.2 then least else min least k.2.token) count

/-- The scanner without the place at this depth. -/
def dropKey (s : Scanner) : Except Error Scanner :=
  if s.keys.any fun k => k.1 == s.depth && k.2.isRequired then .error .malformed
  else .ok { s with keys := s.keys.filter fun k => k.1 != s.depth }

/-- The scanner that remembers this place if a key may begin here. -/
def saveKey (s : Scanner) : Except Error Scanner :=
  if !s.keyAllowed then .ok s
  else
    s.dropKey.map fun s =>
      let isRequired := !s.inFlow && s.indent == s.source.column
      let key : PossibleKey :=
        ⟨s.tokens.size, isRequired, s.source.index, s.source.line, s.source.column⟩
      { s with keys := (s.depth, key) :: s.keys }

/-! ## Single tokens -/

/-- Takes the mark of a document or the end of the text. -/
def takeMark (token : Token) (length : Nat) (s : Scanner) : Except Error Scanner :=
  (unwind (-1) s).dropKey.map fun s => { s.take token length with keyAllowed := false }

/-- Takes an opening bracket or brace. -/
def takeOpening (token : Token) (s : Scanner) : Except Error Scanner :=
  s.saveKey.map fun s => { s.take token 1 with depth := s.depth + 1, keyAllowed := true }

/-- Takes a closing bracket or brace. -/
def takeClosing (token : Token) (s : Scanner) : Except Error Scanner :=
  if s.depth == 0 then .error .malformed
  else s.dropKey.map fun s => { s.take token 1 with depth := s.depth - 1, keyAllowed := false }

/-- Takes a comma between brackets. -/
def takeComma (s : Scanner) : Except Error Scanner :=
  s.dropKey.map fun s => { s.take .flowEntry 1 with keyAllowed := true }

/-- Takes the dash of an item. -/
def takeDash (s : Scanner) : Except Error Scanner :=
  if !s.inFlow && !s.keyAllowed then .error .malformed
  else
    let s := if s.inFlow then s else s.begin .blockSequenceStart
    s.dropKey.map fun s => { s.take .blockEntry 1 with keyAllowed := true }

/-- Takes the question mark of a key. -/
def takeQuestion (s : Scanner) : Except Error Scanner :=
  if !s.inFlow && !s.keyAllowed then .error .malformed
  else
    let s := if s.inFlow then s else s.begin .blockMappingStart
    s.dropKey.map fun s => { s.take .key 1 with keyAllowed := !s.inFlow }

/-- Takes the colon of a value. What began at the place that is remembered turns out to be a key. -/
def takeColon (s : Scanner) : Except Error Scanner :=
  match s.keys.lookup s.depth with
  | some key =>
    let s := { s with keys := s.keys.filter fun k => k.1 != s.depth }
    let s := s.insert key.token .key
    let s :=
      if s.inFlow then s
      else
        match s.enter key.column with
        | (true, s) => s.insert key.token .blockMappingStart
        | (false, s) => s
    .ok { s.take .value 1 with keyAllowed := false }
  | none =>
    if !s.inFlow && !s.keyAllowed then .error .malformed
    else
      let s := if s.inFlow then s else s.begin .blockMappingStart
      .ok { s.take .value 1 with keyAllowed := !s.inFlow }

/-- Takes what `read` finds, a node that may be a key. -/
def takeNode (read : Source → Except Error (Token × Source)) (s : Scanner) : Except Error Scanner := do
  let s ← s.saveKey
  let (token, after) ← read s.source
  return { s.push token with source := after, keyAllowed := false }

/-- Takes a directive. -/
def takeDirective (s : Scanner) : Except Error Scanner := do
  let s ← (unwind (-1) s).dropKey
  let (token, after) ← directive s.source
  return { s.push token with source := after, keyAllowed := false }

/-- Takes a scalar in a block of lines. -/
def takeBlock (s : Scanner) : Except Error Scanner := do
  let s ← s.dropKey
  let (text, after) ← blockScalar s.indent s.source
  return { s.push (.scalar text false) with source := after, keyAllowed := true }

/-- Takes a scalar without quotes. -/
def takePlain (s : Scanner) : Except Error Scanner :=
  s.saveKey.map fun s =>
    let read := plainScalar s.inFlow s.indent s.source
    { s.push (.scalar (String.ofList read.read.reverse) true) with
      source := read.source, keyAllowed := read.afterBreak }

/-! ## All tokens -/

/-- The scanner at its next token: blanks and comments are passed, collections to the right are over. -/
def approach (s : Scanner) : Except Error Scanner :=
  let opened :=
    if s.source.index == 0 && s.source.head == byteOrderMark then s.source.next else s.source
  let (source, broken) := opened.toToken (opened.rest.length + 1) false
  let s := { s with source := source, keyAllowed := s.keyAllowed || (broken && !s.inFlow) }
  s.dropStale.map fun s => s.unwind s.source.column

/-- Takes the next token, which is not the end of the text. -/
def step (s : Scanner) : Except Error Scanner :=
  let c := s.source.head
  let next := s.source.peek 1
  let atLineStart := s.source.column == 0
  if c == '%' && atLineStart then s.takeDirective
  else if atLineStart && s.source.isMarker '-' then s.takeMark .documentStart 3
  else if atLineStart && s.source.isMarker '.' then s.takeMark .documentEnd 3
  else if c == '[' then s.takeOpening .flowSequenceStart
  else if c == '{' then s.takeOpening .flowMappingStart
  else if c == ']' then s.takeClosing .flowSequenceEnd
  else if c == '}' then s.takeClosing .flowMappingEnd
  else if c == ',' then s.takeComma
  else if c == '-' && endsWord next then s.takeDash
  else if c == '?' && (s.inFlow || endsWord next) then s.takeQuestion
  else if c == ':' && (s.inFlow || endsWord next) then s.takeColon
  else if c == '*' then
    s.takeNode fun source => (anchorName source).map fun (name, after) => (.reference name, after)
  else if c == '&' then
    s.takeNode fun source => (anchorName source).map fun (name, after) => (.anchor name, after)
  else if c == '!' then s.takeNode tag
  else if (c == '|' || c == '>') && !s.inFlow then s.takeBlock
  else if c == '\'' || c == '"' then
    s.takeNode fun source =>
      (quotedScalar (c == '"') source).map fun (text, after) => (.scalar text false, after)
  else if beginsPlain s.inFlow c next then s.takePlain
  else .error .malformed

/-- The tokens from a scanner on; `fuel` bounds their number. A fault of a value is the last of them; it
stands before those that depend on whether a key begins there. -/
def run (fuel : Nat) (s : Scanner) : Except Error (Array Token) :=
  match fuel with
  | 0 => .error .malformed
  | fuel + 1 => do
    let near ← s.approach
    if near.source.head == endMark then
      let finished ← near.takeMark .streamEnd 0
      return finished.tokens
    match near.step with
    | .ok after => run fuel after
    | .error (.fault fault) =>
      return (near.tokens.extract 0 (s.settled near.tokens.size)).push (.broken fault)
    | .error .malformed => .error .malformed

end Scanner

/-- The tokens of a text in which every line break that files end their lines with is a line feed. -/
def tokens (text : String) : Except Error (List Token) :=
  let text := Text.withUnifiedBreaks text
  if text.toList.all isAllowed then
    ((Scanner.ofText text).run (text.length + 2)).map Array.toList
  else .error .malformed

end Codebook.Yaml
