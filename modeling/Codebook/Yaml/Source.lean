import Codebook.Text.LineBreak

/-!
# Sources

The rest of a text that is being read, with the place where it begins: how many characters lie before it,
and its line and column. Reading past the end gives the null character, which no text of a document holds.
Five characters break a line here; the line and paragraph separators among them are kept in what is read.
-/

namespace Codebook.Yaml

/-! ## Classes of characters -/

/-- The character that stands for the end of a text. -/
def endMark : Char := Char.ofNat 0

/-- The line separator. -/
def lineSeparator : Char := Char.ofNat 0x2028

/-- The paragraph separator. -/
def paragraphSeparator : Char := Char.ofNat 0x2029

/-- The mark that may open a text and takes up no column. -/
def byteOrderMark : Char := Char.ofNat 0xFEFF

/-- Whether a character breaks a line. -/
def isBreak (c : Char) : Bool :=
  c == '\n' || c == '\r' || c == Char.ofNat 0x85 || c == lineSeparator || c == paragraphSeparator

/-- Whether a character ends a line or the text. -/
def endsLine (c : Char) : Bool :=
  c == endMark || isBreak c

/-- Whether a character is a space or ends a line. -/
def endsName (c : Char) : Bool :=
  c == ' ' || endsLine c

/-- Whether a character is a space or a tab or ends a line. -/
def endsWord (c : Char) : Bool :=
  c == '\t' || endsName c

/-- Whether a name may hold the character. -/
def isNameChar (c : Char) : Bool :=
  c.isAlphanum || c == '-' || c == '_'

/-- Whether a text may hold the character. -/
def isAllowed (c : Char) : Bool :=
  let n := c.toNat
  n == 9 || n == 10 || n == 13 || (0x20 ≤ n && n ≤ 0x7E) || n == 0x85 || (0xA0 ≤ n && n ≤ 0xD7FF) ||
    (0xE000 ≤ n && n ≤ 0xFFFD) || 0x10000 ≤ n

/-! ## Sources -/

/-- The rest of a text and the place where it begins. -/
structure Source where
  rest : List Char
  index : Nat
  line : Nat
  column : Nat

namespace Source

/-- The whole of a text. -/
def ofText (text : String) : Source :=
  ⟨text.toList, 0, 0, 0⟩

/-- The character at a distance from the beginning. -/
def peek (s : Source) (distance : Nat) : Char :=
  (s.rest[distance]?).getD endMark

/-- The first character. -/
def head (s : Source) : Char :=
  s.peek 0

/-- The source after its first character. -/
def next (s : Source) : Source :=
  match s.rest with
  | [] => s
  | c :: rest =>
    if isBreak c then ⟨rest, s.index + 1, s.line + 1, 0⟩
    else ⟨rest, s.index + 1, s.line, if c == byteOrderMark then s.column else s.column + 1⟩

/-- The source after some of its characters. -/
def drop (s : Source) : Nat → Source
  | 0 => s
  | n + 1 => s.next.drop n

/-- The characters up to the first that does not satisfy the test, and the source from there on. -/
def span (s : Source) (test : Char → Bool) : List Char × Source :=
  let found := s.rest.takeWhile test
  (found, s.drop found.length)

/-- The source after the characters that satisfy the test. -/
def skip (s : Source) (test : Char → Bool) : Source :=
  (s.span test).2

/-- The source after its spaces. -/
def skipSpaces (s : Source) : Source :=
  s.skip (· == ' ')

/-- The source at the end of its line if a comment begins here. -/
def skipComment (s : Source) : Source :=
  if s.head == '#' then s.skip fun c => !endsLine c else s

/-- The line break at the beginning as it counts in a scalar, and the source after it. -/
def takeBreak? (s : Source) : Option (Char × Source) :=
  match s.rest with
  | [] => none
  | c :: _ =>
    if c == lineSeparator || c == paragraphSeparator then some (c, s.next)
    else if isBreak c then some ('\n', s.next)
    else none

/-- The source after the line break at its beginning, if there is one. -/
def skipBreak (s : Source) : Source :=
  (s.takeBreak?.map Prod.snd).getD s

/-- Whether the source begins with three equal characters and a blank or a line end. -/
def isMarker (s : Source) (mark : Char) : Bool :=
  s.peek 0 == mark && s.peek 1 == mark && s.peek 2 == mark && endsWord (s.peek 3)

/-- Whether the source begins with the mark that starts or ends a document. -/
def isBoundary (s : Source) : Bool :=
  s.isMarker '-' || s.isMarker '.'

/-- The source at its next token, and whether a line break lies before it; `fuel` bounds the lines. -/
def toToken (s : Source) (fuel : Nat) (broken : Bool) : Source × Bool :=
  match fuel with
  | 0 => (s, broken)
  | fuel + 1 =>
    let s := s.skipSpaces.skipComment
    match s.takeBreak? with
    | some (_, after) => after.toToken fuel true
    | none => (s, broken)

end Source

end Codebook.Yaml
