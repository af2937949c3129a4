import Codebook.Text.Blank
import Codebook.Text.Case

/-!
# Lexemes of definition text

A definition text is made of words, quoted strings and punctuation marks, and every lexeme knows its
line. A quote inside a string is written twice. The string that begins at a quote is the longest one
on the line; a quote at which none begins is a lexeme by itself. Blanks separate lexemes and are
dropped.
-/

namespace Codebook.Definition

open Codebook.Text

/-! ## Lexemes -/

/-- A punctuation mark. -/
inductive Mark where
  | openBrace
  | closeBrace
  | openBracket
  | closeBracket
  | comma
  | semicolon
  | equals
deriving Repr, DecidableEq

namespace Mark

/-- The character of a mark. -/
def char : Mark → Char
  | openBrace => '{'
  | closeBrace => '}'
  | openBracket => '['
  | closeBracket => ']'
  | comma => ','
  | semicolon => ';'
  | equals => '='

/-- All marks. -/
def all : List Mark :=
  [openBrace, closeBrace, openBracket, closeBracket, comma, semicolon, equals]

/-- The mark of a character. -/
def ofChar? (c : Char) : Option Mark :=
  all.find? fun mark => mark.char == c

end Mark

/-- What a lexeme is. -/
inductive Form where
  /-- A run of characters that are no blanks, quotes or marks. -/
  | word (text : String)
  /-- A string, given by the text between its outer quotes as it is written. -/
  | string (written : String)
  | mark (mark : Mark)
  /-- A quote at which no string begins. -/
  | strayQuote
deriving Repr, DecidableEq

/-- A lexeme and the line on which it stands. -/
structure Lexeme where
  form : Form
  line : Nat
deriving Repr, DecidableEq

/-! ## Text of a lexeme -/

/-- The characters between the outer quotes of a string, every doubled quote made single. -/
def unquoteChars : List Char → List Char
  | '"' :: '"' :: rest => '"' :: unquoteChars rest
  | c :: rest => c :: unquoteChars rest
  | [] => []

/-- What a string stands for. -/
def unquote (written : String) : String :=
  String.ofList (unquoteChars written.toList)

namespace Lexeme

/-- A lexeme as it is written. -/
def text (l : Lexeme) : String :=
  match l.form with
  | .word text => text
  | .string written => "\"" ++ written ++ "\""
  | .mark mark => mark.char.toString
  | .strayQuote => "\""

/-- What a lexeme stands for. -/
def meaning (l : Lexeme) : String :=
  match l.form with
  | .string written => unquote written
  | _ => l.text

/-- Whether a lexeme is a code: an underscore and something after it. -/
def isCode (l : Lexeme) : Bool :=
  match l.form with
  | .word text =>
    match text.toList with
    | '_' :: _ :: _ => true
    | _ => false
  | _ => false

/-- Whether a lexeme is a word that reads as a keyword in any case. -/
def isKeyword (keyword : String) (l : Lexeme) : Bool :=
  match l.form with
  | .word text => lower text == keyword
  | _ => false

end Lexeme

/-! ## Lexing -/

/-- Whether a character may stand in a word. -/
def isWordChar (c : Char) : Bool :=
  !isBlank c && c != '"' && (Mark.ofChar? c).isNone

/-- Splits the characters after an opening quote at the quote that closes the longest string. -/
def closing? : List Char → Option (List Char × List Char)
  | [] => none
  | '"' :: '"' :: rest =>
    match closing? rest with
    | some (inside, after) => some ('"' :: '"' :: inside, after)
    | none => some ([], '"' :: rest)
  | '"' :: rest => some ([], rest)
  | c :: rest =>
    if c == '\n' then none
    else (closing? rest).map fun (inside, after) => (c :: inside, after)

/-- A string takes at least its closing quote. -/
theorem closing?_length {chars inside after : List Char}
    (h : closing? chars = some (inside, after)) : after.length < chars.length := by
  fun_induction closing? chars generalizing inside after with
  | case1 => simp at h
  | case2 rest inner out found ih =>
    simp only [Option.some.injEq, Prod.mk.injEq] at h
    have := ih found
    simp only [List.length_cons]
    rw [← h.2]
    omega
  | case3 rest _ ih =>
    simp only [Option.some.injEq, Prod.mk.injEq] at h
    simp [← h.2]
  | case4 rest _ =>
    simp only [Option.some.injEq, Prod.mk.injEq] at h
    simp [← h.2]
  | case5 => simp at h
  | case6 c rest _ _ _ ih =>
    obtain ⟨⟨inner, out⟩, found, same⟩ := Option.map_eq_some_iff.1 h
    simp only [Prod.mk.injEq] at same
    have := ih found
    simp only [List.length_cons]
    rw [← same.2]
    omega

/-- The lexemes of characters of which the first stands on the given line. -/
def lexFrom (line : Nat) (chars : List Char) : List Lexeme :=
  match chars with
  | [] => []
  | c :: rest =>
    if c == '\n' then lexFrom (line + 1) rest
    else if isBlank c then lexFrom line rest
    else if c == '"' then
      match _ : closing? rest with
      | some (inside, after) => ⟨.string (String.ofList inside), line⟩ :: lexFrom line after
      | none => ⟨.strayQuote, line⟩ :: lexFrom line rest
    else
      match Mark.ofChar? c with
      | some mark => ⟨.mark mark, line⟩ :: lexFrom line rest
      | none =>
        ⟨.word (String.ofList (c :: rest.takeWhile isWordChar)), line⟩
          :: lexFrom line (rest.dropWhile isWordChar)
termination_by chars.length
decreasing_by
  · simp
  · simp
  · have := closing?_length ‹closing? rest = some (inside, after)›
    simp
    omega
  · simp
  · simp
  · have := (List.dropWhile_sublist isWordChar (l := rest)).length_le
    simp
    omega

/-- The lexemes of a text. -/
def lex (text : String) : List Lexeme :=
  lexFrom 1 text.toList

end Codebook.Definition
