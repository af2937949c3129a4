import Codebook.Definition.Lexeme
import Codebook.Keyed

/-!
# Tokens of definition text

The pieces of structure that definition text is made of: the opening and the end of a list, a header
with its block, an item, and a fragment that none of these fits. Every token carries its line.
-/

namespace Codebook.Definition

open Codebook.Text

/-- The values in the bracket clause of an entry, by key; the last value of a key counts. -/
abbrev Properties := Keyed String String

/-- How a block ends. -/
inductive BlockEnd where
  | group
  /-- The block keeps its place: its brace is followed by the word `fix`. -/
  | fix
deriving Repr, DecidableEq

namespace BlockEnd

/-- The written form of an end. -/
def name : BlockEnd → String
  | group => "group"
  | fix => "fix"

end BlockEnd

/-- A piece of structure; codes are given without their underscore. -/
inductive Token where
  | listOpen (name : String) (line : Nat)
  | headerOpen (code label : String) (line : Nat) (properties : Properties)
  | blockOpen (line : Nat)
  | item (code label : String) (line : Nat) (properties : Properties)
  | blockClose (closing : BlockEnd) (line : Nat)
  | listClose (line : Nat)
  | malformed (fragment : String) (line : Nat)
deriving Repr, DecidableEq

/-! ## Property values -/

/-- The characters without the braces around them, if there are both. -/
def withoutBraces (chars : List Char) : List Char :=
  match chars with
  | '{' :: rest => if rest.getLast? == some '}' then rest.dropLast else chars
  | _ => chars

/-- The value that a quoted text gives to a property: without outer braces, and without blanks
at the ends before and after they are gone. -/
def propertyValue (text : String) : String :=
  String.ofList (trimChars (withoutBraces (trimChars text.toList)))

/-! ## Bracket clauses -/

/-- Reads a bracket clause after its opening bracket, on top of the properties already read. -/
def readProperties (read : Properties) : List Lexeme → Option (Properties × List Lexeme)
  | ⟨.mark .closeBracket, _⟩ :: rest => some (read, rest)
  | ⟨.mark .comma, _⟩ :: rest => readProperties read rest
  | ⟨.word key, _⟩ :: ⟨.mark .equals, _⟩ :: ⟨.string written, _⟩ :: rest =>
    readProperties (read.put key (propertyValue (unquote written))) rest
  | _ => none

/-- A bracket clause takes at least its closing bracket. -/
theorem readProperties_length {read found : Properties} {lexemes rest : List Lexeme}
    (h : readProperties read lexemes = some (found, rest)) : rest.length < lexemes.length := by
  fun_induction readProperties read lexemes with
  | case1 =>
    simp only [Option.some.injEq, Prod.mk.injEq] at h
    simp [← h.2]
  | case2 _ _ _ ih =>
    have := ih h
    simp only [List.length_cons]
    omega
  | case3 _ _ _ _ _ _ _ ih =>
    have := ih h
    simp only [List.length_cons]
    omega
  | case4 => simp at h

end Codebook.Definition
