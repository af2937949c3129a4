import Codebook.Definition.Token

/-!
# Reading definition text

Lexemes are read by a machine that knows which list and which blocks are open. Each step takes at
least one lexeme and hands over the tokens that it makes: an opening, an entry, a close, a fragment
that is skipped, or nothing for a separator. When the lexemes are used up, each block that is still
open is reported, the innermost first.

A list can open only outside of every list and block. A fragment that fits nowhere reaches up to the
next comma, which is dropped, or the next closing brace, which is kept; commas inside brackets and
braces of its own do not end it.
-/

namespace Codebook.Definition

open Codebook.Text

/-- A block that is open: the code and the line of its header. -/
structure OpenBlock where
  code : String
  line : Nat
deriving Repr, DecidableEq

/-- What is open at a point of the text. -/
structure Context where
  /-- Whether a list is open. -/
  inList : Bool
  /-- The open blocks, the innermost first. -/
  blocks : List OpenBlock
deriving Repr, DecidableEq

namespace Context

/-- Nothing is open. -/
def outside : Context := ⟨false, []⟩

/-- Whether a list or a block is open. -/
def isInside (c : Context) : Bool :=
  c.inList || !c.blocks.isEmpty

/-- The report of a block that has no end. -/
def unterminated (block : OpenBlock) : Token :=
  .malformed ("unterminated block _" ++ block.code) block.line

/-- The reports of the open blocks at the end of a text. -/
def atEnd (c : Context) : List Token :=
  c.blocks.map unterminated

end Context

/-- The outcome of a step: the tokens made, what is open now, and the lexemes left. -/
structure Step where
  tokens : List Token
  context : Context
  rest : List Lexeme

/-! ## Fragments -/

/-- How many square brackets and braces of a fragment are open. -/
structure Depth where
  square : Nat
  curly : Nat
deriving Repr, DecidableEq

namespace Depth

/-- The depth after a lexeme of the fragment. -/
def after (d : Depth) (l : Lexeme) : Depth :=
  match l.form with
  | .mark .openBracket => { d with square := d.square + 1 }
  | .mark .closeBracket => { d with square := d.square - 1 }
  | .mark .openBrace => { d with curly := d.curly + 1 }
  | .mark .closeBrace => { d with curly := d.curly - 1 }
  | _ => d

end Depth

/-- Splits off the lexemes that continue a fragment: up to a comma outside of its brackets, which is
dropped, or up to a brace that closes none of its own. -/
def fragmentTail (depth : Depth) : List Lexeme → List Lexeme × List Lexeme
  | [] => ([], [])
  | l :: rest =>
    if l.form == .mark .comma && depth == ⟨0, 0⟩ then ([], rest)
    else if l.form == .mark .closeBrace && depth.curly == 0 then ([], l :: rest)
    else
      let (taken, left) := fragmentTail (depth.after l) rest
      (l :: taken, left)

/-- Skips a fragment that begins with the lexeme `first`. -/
def skipFragment (context : Context) (first : Lexeme) (rest : List Lexeme) : Step :=
  let (taken, left) := fragmentTail (Depth.after ⟨0, 0⟩ first) rest
  ⟨[.malformed (" ".intercalate ((first :: taken).map Lexeme.text)) first.line], context, left⟩

/-! ## Parts of the grammar -/

/-- The lexemes without a mark at their front. -/
def dropMark (mark : Mark) : List Lexeme → List Lexeme
  | l :: rest => if l.form == .mark mark then rest else l :: rest
  | [] => []

/-- What follows the name of a list in its opening: a string and the word `define`. -/
def afterListName? : List Lexeme → Option (List Lexeme)
  | ⟨.string _, _⟩ :: keyword :: rest => if keyword.isKeyword "define" then some rest else none
  | _ => none

/-- The label and the properties of an entry, read after its code. -/
def entryBody? : List Lexeme → Option (String × Properties × List Lexeme)
  | ⟨.string written, _⟩ :: ⟨.mark .openBracket, _⟩ :: rest =>
    (readProperties [] rest).map fun (properties, left) => (unquote written, properties, left)
  | ⟨.string written, _⟩ :: rest => some (unquote written, [], rest)
  | _ => none

/-- Reads the entry of a code: a header that opens a block, or an item. -/
def readEntry (context : Context) (code : Lexeme) (rest : List Lexeme) : Step :=
  match entryBody? rest with
  | none => skipFragment context code rest
  | some (label, properties, left) =>
    let name := String.ofList (code.text.toList.drop 1)
    match left with
    | ⟨.mark .openBrace, line⟩ :: left =>
      ⟨[.headerOpen name label code.line properties, .blockOpen line],
        { context with blocks := ⟨name, code.line⟩ :: context.blocks }, left⟩
    | _ => ⟨[.item name label code.line properties], context, dropMark .comma left⟩

/-- Reads what follows the brace that closes a block. -/
def closeBlock (context : Context) (line : Nat) (rest : List Lexeme) : Step :=
  match rest with
  | l :: left =>
    if l.isKeyword "fix" then ⟨[.blockClose .fix line], context, dropMark .comma left⟩
    else ⟨[.blockClose .group line], context, dropMark .comma rest⟩
  | [] => ⟨[.blockClose .group line], context, []⟩

/-! ## Steps -/

/-- A step inside of a list or a block. -/
def stepInside (context : Context) (first : Lexeme) (rest : List Lexeme) : Step :=
  match first.form with
  | .mark .closeBrace =>
    match context.blocks with
    | _ :: outer => closeBlock { context with blocks := outer } first.line rest
    | [] => ⟨[.listClose first.line], .outside, dropMark .semicolon rest⟩
  | .mark .comma => ⟨[], context, rest⟩
  | .mark .semicolon => ⟨[], context, rest⟩
  | _ => if first.isCode then readEntry context first rest else skipFragment context first rest

/-- A step outside of every list and block. -/
def stepOutside (first : Lexeme) (rest : List Lexeme) : Step :=
  match first.form with
  | .mark .closeBrace => ⟨[], .outside, rest⟩
  | .mark .comma => ⟨[], .outside, rest⟩
  | .mark .semicolon => ⟨[], .outside, rest⟩
  | .word name =>
    if first.isCode then readEntry .outside first rest
    else
      match afterListName? rest with
      | some (⟨.mark .openBrace, _⟩ :: left) => ⟨[.listOpen name first.line], ⟨true, []⟩, left⟩
      | some left => ⟨[.listOpen name first.line], .outside, left⟩
      | none => skipFragment .outside first rest
  | _ => skipFragment .outside first rest

/-- One step of the reader. -/
def step (context : Context) (first : Lexeme) (rest : List Lexeme) : Step :=
  if context.isInside then stepInside context first rest else stepOutside first rest

/-! ## Progress -/

theorem dropMark_length (mark : Mark) (lexemes : List Lexeme) :
    (dropMark mark lexemes).length ≤ lexemes.length := by
  fun_cases dropMark mark lexemes <;> simp_all

theorem fragmentTail_length (depth : Depth) (lexemes : List Lexeme) :
    (fragmentTail depth lexemes).2.length ≤ lexemes.length := by
  fun_induction fragmentTail depth lexemes with
  | case1 => simp
  | case2 => simp
  | case3 => simp
  | case4 depth l rest _ _ taken left split ih =>
    simp only [split] at ih
    simp only [List.length_cons]
    omega

theorem skipFragment_length (context : Context) (first : Lexeme) (rest : List Lexeme) :
    (skipFragment context first rest).rest.length ≤ rest.length :=
  fragmentTail_length _ rest

theorem afterListName?_length {lexemes rest : List Lexeme}
    (h : afterListName? lexemes = some rest) : rest.length ≤ lexemes.length := by
  fun_cases afterListName? lexemes <;> simp_all [afterListName?]
  omega

theorem entryBody?_length {lexemes rest : List Lexeme} {label : String} {properties : Properties}
    (h : entryBody? lexemes = some (label, properties, rest)) : rest.length ≤ lexemes.length := by
  fun_cases entryBody? lexemes with
  | case1 written _ _ after =>
    simp only [entryBody?, Option.map_eq_some_iff] at h
    obtain ⟨⟨_, left⟩, found, same⟩ := h
    simp only [Prod.mk.injEq] at same
    have := readProperties_length found
    simp only [List.length_cons, ← same.2.2]
    omega
  | case2 written _ after =>
    simp_all [entryBody?]
  | case3 => simp_all [entryBody?]

theorem readEntry_length (context : Context) (code : Lexeme) (rest : List Lexeme) :
    (readEntry context code rest).rest.length ≤ rest.length := by
  fun_cases readEntry context code rest with
  | case1 => exact skipFragment_length ..
  | case2 label properties name line left found =>
    have := entryBody?_length found
    simp only [List.length_cons] at this
    simp only
    omega
  | case3 label properties left found =>
    have := entryBody?_length found
    have := dropMark_length .comma left
    simp only
    omega

theorem closeBlock_length (context : Context) (line : Nat) (rest : List Lexeme) :
    (closeBlock context line rest).rest.length ≤ rest.length := by
  fun_cases closeBlock context line rest with
  | case1 l left =>
    have := dropMark_length .comma left
    simp only [List.length_cons]
    omega
  | case2 l left => exact dropMark_length .comma (l :: left)
  | case3 => simp

/-- A step leaves no more lexemes than those after the first. -/
theorem step_length (context : Context) (first : Lexeme) (rest : List Lexeme) :
    (step context first rest).rest.length ≤ rest.length := by
  unfold step
  split
  · fun_cases stepInside context first rest with
    | case1 => exact closeBlock_length ..
    | case2 => exact dropMark_length ..
    | case3 => simp
    | case4 => simp
    | case5 => exact readEntry_length ..
    | case6 => exact skipFragment_length ..
  · fun_cases stepOutside first rest with
    | case1 => simp
    | case2 => simp
    | case3 => simp
    | case4 => exact readEntry_length ..
    | case5 name _ _ _ _ found =>
      have := afterListName?_length found
      simp only [List.length_cons] at this
      simp only
      omega
    | case6 name _ _ _ _ found => exact afterListName?_length found
    | case7 => exact skipFragment_length ..
    | case8 => exact skipFragment_length ..

/-! ## Whole texts -/

/-- The tokens of lexemes that are read with something already open. -/
def tokensFrom (context : Context) (lexemes : List Lexeme) : List Token :=
  match lexemes with
  | [] => context.atEnd
  | first :: rest =>
    let made := step context first rest
    made.tokens ++ tokensFrom made.context made.rest
termination_by lexemes.length
decreasing_by
  have := step_length context first rest
  simp only [List.length_cons]
  omega

/-- The tokens of a text. -/
def tokenize (text : String) : List Token :=
  tokensFrom .outside (lex text)

end Codebook.Definition
