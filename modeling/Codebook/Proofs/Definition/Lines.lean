import Codebook.Proofs.Definition.ReadBack

/-!
# Texts further down

A text that stands further down has the same lexemes and the same tokens, each as many lines further down
as the text (`lexFrom_add`, `tokensFrom_down`): the reader hands lines on and never looks at them.
-/

namespace Codebook.Definition

open Codebook.Text

/-! ## Moving down -/

/-- A lexeme that stands some lines further down. -/
def Lexeme.down (lines : Nat) (l : Lexeme) : Lexeme :=
  { l with line := l.line + lines }

/-- A token that stands some lines further down. -/
def Token.down (lines : Nat) : Token → Token
  | .listOpen name line => .listOpen name (line + lines)
  | .headerOpen code label line properties => .headerOpen code label (line + lines) properties
  | .blockOpen line => .blockOpen (line + lines)
  | .item code label line properties => .item code label (line + lines) properties
  | .blockClose closing line => .blockClose closing (line + lines)
  | .listClose line => .listClose (line + lines)
  | .malformed fragment line => .malformed fragment (line + lines)

/-- What is open where a text stands some lines further down. -/
def Context.down (lines : Nat) (c : Context) : Context :=
  { c with blocks := c.blocks.map fun block => { block with line := block.line + lines } }

/-- A step in a text that stands some lines further down. -/
def Step.down (lines : Nat) (made : Step) : Step :=
  ⟨made.tokens.map (Token.down lines), made.context.down lines, made.rest.map (Lexeme.down lines)⟩

variable (lines : Nat)

theorem Token.down_zero (t : Token) : t.down 0 = t := by
  cases t <;> rfl

theorem Token.down_down (more : Nat) (t : Token) : (t.down lines).down more = t.down (lines + more) := by
  cases t <;> simp only [down, Nat.add_assoc]

theorem Context.down_outside : Context.outside.down lines = .outside := rfl

theorem Context.isInside_down (c : Context) : (c.down lines).isInside = c.isInside := by
  rw [isInside, isInside, down, List.isEmpty_map]

theorem Context.atEnd_down (c : Context) : (c.down lines).atEnd = c.atEnd.map (Token.down lines) := by
  rw [atEnd, atEnd, down, List.map_map, List.map_map]
  rfl

/-! ## Lexemes further down -/

/-- The lexemes of characters that stand further down are those of the characters, further down. -/
theorem lexFrom_add (line : Nat) (chars : List Char) :
    lexFrom (line + lines) chars = (lexFrom line chars).map (Lexeme.down lines) := by
  fun_induction lexFrom line chars with
  | case1 line => rw [lexFrom_nil, List.map_nil]
  | case2 line c rest newline ih =>
    obtain rfl := beq_iff_eq.1 newline
    rw [lexFrom_newline, Nat.add_right_comm, ih]
  | case3 line c rest sameLine blank ih =>
    rw [lexFrom_blank blank (by simpa using sameLine), ih]
  | case4 line c rest _ _ quote inside after closed ih =>
    obtain rfl := beq_iff_eq.1 quote
    rw [lexFrom_string closed, ih, List.map_cons, Lexeme.down]
  | case5 line c rest _ _ quote missing ih =>
    obtain rfl := beq_iff_eq.1 quote
    rw [lexFrom_strayQuote missing, ih, List.map_cons, Lexeme.down]
  | case6 line c rest _ _ _ mark found ih =>
    obtain rfl := Mark.char_of_ofChar? found
    rw [lexFrom_mark, ih, List.map_cons, Lexeme.down]
  | case7 line c rest sameLine dark noQuote noMark ih =>
    have inWord : isWordChar c = true := by
      simp_all [isWordChar]
    rw [lexFrom_wordChar inWord, ih, List.map_cons, Lexeme.down]

theorem lexLines_add (line : Nat) (texts : List String) :
    lexLines (line + lines) texts = (lexLines line texts).map (Lexeme.down lines) := by
  induction texts generalizing line with
  | nil => rfl
  | cons text rest ih =>
    rw [lexLines, lexLines, List.map_append, lexFrom_add, Nat.add_right_comm, ih]

/-! ## Steps further down -/

section Parts

variable {lines}

theorem dropMark_down (mark : Mark) (lexemes : List Lexeme) :
    dropMark mark (lexemes.map (Lexeme.down lines)) = (dropMark mark lexemes).map (Lexeme.down lines) := by
  cases lexemes with
  | nil => rfl
  | cons l rest =>
    rw [List.map_cons, dropMark, dropMark, Lexeme.down]
    split <;> rfl

theorem fragmentTail_down (depth : Depth) (lexemes : List Lexeme) :
    fragmentTail depth (lexemes.map (Lexeme.down lines)) =
      ((fragmentTail depth lexemes).1.map (Lexeme.down lines),
        (fragmentTail depth lexemes).2.map (Lexeme.down lines)) := by
  induction lexemes generalizing depth with
  | nil => rfl
  | cons l rest ih =>
    have form : (l.down lines).form = l.form := rfl
    have after : depth.after (l.down lines) = depth.after l := rfl
    rw [List.map_cons, fragmentTail, fragmentTail, form, after, ih]
    split
    · rfl
    split <;> rfl

theorem exists_of_down_eq_cons {lexemes rest : List Lexeme} {form : Form} {line : Nat}
    (same : lexemes.map (Lexeme.down lines) = ⟨form, line⟩ :: rest) :
    ∃ line' rest', lexemes = ⟨form, line'⟩ :: rest' ∧ rest'.map (Lexeme.down lines) = rest := by
  obtain ⟨⟨_, line'⟩, rest', rfl, first, others⟩ := List.map_eq_cons_iff.1 same
  cases first
  exact ⟨line', rest', rfl, others⟩

theorem readProperties_down (read : Properties) (lexemes : List Lexeme) :
    readProperties read (lexemes.map (Lexeme.down lines)) =
      (readProperties read lexemes).map fun (found, rest) => (found, rest.map (Lexeme.down lines)) := by
  fun_induction readProperties read lexemes with
  | case1 read line rest => rfl
  | case2 read line rest ih => exact ih
  | case3 read key line equalsLine written valueLine rest ih => exact ih
  | case4 lexemes read noClose noComma noPair =>
    rw [readProperties]
    · rfl
    · intro line rest same
      obtain ⟨_, _, rfl, _⟩ := exists_of_down_eq_cons same
      exact noClose _ _ rfl
    · intro line rest same
      obtain ⟨_, _, rfl, _⟩ := exists_of_down_eq_cons same
      exact noComma _ _ rfl
    · intro key line equalsLine written valueLine rest same
      obtain ⟨_, _, rfl, more⟩ := exists_of_down_eq_cons same
      obtain ⟨_, _, rfl, last⟩ := exists_of_down_eq_cons more
      obtain ⟨_, _, rfl, _⟩ := exists_of_down_eq_cons last
      exact noPair _ _ _ _ _ _ rfl

theorem entryBody?_down (lexemes : List Lexeme) :
    entryBody? (lexemes.map (Lexeme.down lines)) =
      (entryBody? lexemes).map fun (label, properties, rest) =>
        (label, properties, rest.map (Lexeme.down lines)) := by
  fun_cases entryBody? lexemes with
  | case1 written line bracketLine rest =>
    show (readProperties [] (rest.map (Lexeme.down lines))).map _ = _
    rw [readProperties_down, Option.map_map, Option.map_map]
    rfl
  | case2 written line rest noBracket =>
    have ahead : ∀ l ∈ (rest.map (Lexeme.down lines)).head?, l.form ≠ .mark .openBracket := by
      rw [List.head?_map]
      intro l member
      obtain ⟨first, here, rfl⟩ := Option.map_eq_some_iff.1 member
      exact form_ne_of_noMark noBracket first here
    exact entryBody?_string written ahead
  | case3 lexemes noClause noLabel =>
    rw [entryBody?]
    · rfl
    · intro written line bracketLine rest same
      obtain ⟨_, _, rfl, more⟩ := exists_of_down_eq_cons same
      obtain ⟨_, _, rfl, _⟩ := exists_of_down_eq_cons more
      exact noClause _ _ _ _ rfl
    · intro written line rest same
      obtain ⟨_, _, rfl, _⟩ := exists_of_down_eq_cons same
      exact noLabel _ _ _ rfl

theorem afterListName?_down (lexemes : List Lexeme) :
    afterListName? (lexemes.map (Lexeme.down lines)) =
      (afterListName? lexemes).map (List.map (Lexeme.down lines)) := by
  fun_cases afterListName? lexemes with
  | case1 written line keyword rest define =>
    exact if_pos define
  | case2 written line keyword rest other =>
    exact if_neg other
  | case3 lexemes short =>
    rw [afterListName?]
    · rfl
    · intro written line keyword rest same
      obtain ⟨_, _, rfl, more⟩ := exists_of_down_eq_cons same
      obtain ⟨_, _, rfl, _⟩ := List.map_eq_cons_iff.1 more
      exact short _ _ _ _ rfl

theorem isCode_down (l : Lexeme) : (l.down lines).isCode = l.isCode := rfl

theorem isKeyword_down (keyword : String) (l : Lexeme) :
    (l.down lines).isKeyword keyword = l.isKeyword keyword := rfl

section Steps

variable (context : Context) (first : Lexeme) (rest : List Lexeme)

theorem skipFragment_down :
    skipFragment (context.down lines) (first.down lines) (rest.map (Lexeme.down lines)) =
      (skipFragment context first rest).down lines := by
  have texts : ∀ taken : List Lexeme,
      (taken.map (Lexeme.down lines)).map Lexeme.text = taken.map Lexeme.text :=
    fun taken => by rw [List.map_map]; rfl
  have after : Depth.after ⟨0, 0⟩ (first.down lines) = Depth.after ⟨0, 0⟩ first := rfl
  rw [skipFragment, skipFragment, after, fragmentTail_down, Step.down]
  simp only [List.map_cons, List.map_nil, texts]
  rfl

theorem readEntry_down :
    readEntry (context.down lines) (first.down lines) (rest.map (Lexeme.down lines)) =
      (readEntry context first rest).down lines := by
  rw [readEntry, entryBody?_down]
  fun_cases readEntry context first rest with
  | case1 none =>
    rw [none]
    exact skipFragment_down context first rest
  | case2 label properties name brace left body =>
    rw [body]
    rfl
  | case3 label properties left body name noBrace =>
    rw [body]
    simp only [Option.map_some]
    split
    · next more same =>
      obtain ⟨_, _, rfl, _⟩ := exists_of_down_eq_cons same
      exact absurd rfl (noBrace _ _)
    · rw [Step.down, dropMark_down]
      rfl

theorem closeBlock_down (line : Nat) :
    closeBlock (context.down lines) (line + lines) (rest.map (Lexeme.down lines)) =
      (closeBlock context line rest).down lines := by
  cases rest with
  | nil => rfl
  | cons l left =>
    rw [List.map_cons, closeBlock, closeBlock, isKeyword_down, ← List.map_cons, dropMark_down, dropMark_down]
    split <;> rfl

theorem stepInside_down :
    stepInside (context.down lines) (first.down lines) (rest.map (Lexeme.down lines)) =
      (stepInside context first rest).down lines := by
  have form : (first.down lines).form = first.form := rfl
  rw [stepInside, form, isCode_down]
  fun_cases stepInside context first rest with
  | case1 brace block outer blocks =>
    rw [brace, Context.down, blocks]
    exact closeBlock_down ⟨context.inList, outer⟩ rest first.line
  | case2 brace blocks =>
    rw [brace, Context.down, blocks, Step.down, ← dropMark_down]
    rfl
  | case3 comma =>
    rw [comma]
    rfl
  | case4 semicolon =>
    rw [semicolon]
    rfl
  | case5 code noBrace noComma noSemicolon =>
    rw [if_pos code]
    split
    · next brace => exact (noBrace brace).elim
    · next comma => exact (noComma comma).elim
    · next semicolon => exact (noSemicolon semicolon).elim
    · exact readEntry_down context first rest
  | case6 code noBrace noComma noSemicolon =>
    rw [if_neg code]
    split
    · next brace => exact (noBrace brace).elim
    · next comma => exact (noComma comma).elim
    · next semicolon => exact (noSemicolon semicolon).elim
    · exact skipFragment_down context first rest

theorem stepOutside_down :
    stepOutside (first.down lines) (rest.map (Lexeme.down lines)) =
      (stepOutside first rest).down lines := by
  have form : (first.down lines).form = first.form := rfl
  rw [stepOutside, form, isCode_down, afterListName?_down]
  fun_cases stepOutside first rest with
  | case1 brace =>
    rw [brace]
    rfl
  | case2 comma =>
    rw [comma]
    rfl
  | case3 semicolon =>
    rw [semicolon]
    rfl
  | case4 name word code =>
    rw [word]
    simp only
    rw [if_pos code]
    exact readEntry_down .outside first rest
  | case5 name word code brace left opening =>
    rw [word, opening]
    simp only
    rw [if_neg code]
    rfl
  | case6 name word code left noBrace opening =>
    rw [word, opening]
    simp only
    rw [if_neg code, Option.map_some]
    split
    · next brace more same =>
      obtain ⟨_, _, rfl, _⟩ := exists_of_down_eq_cons (Option.some.inj same)
      exact (noBrace _ _ rfl).elim
    · next other _ same =>
      cases same
      rfl
    · next none => cases none
  | case7 name word code none =>
    rw [word, none]
    simp only
    rw [if_neg code]
    exact skipFragment_down .outside first rest
  | case8 noBrace noComma noSemicolon noWord =>
    split
    · next brace => exact (noBrace brace).elim
    · next comma => exact (noComma comma).elim
    · next semicolon => exact (noSemicolon semicolon).elim
    · next name word => exact (noWord name word).elim
    · exact skipFragment_down .outside first rest

/-- A step hands the lines of its lexemes on. -/
theorem step_down :
    step (context.down lines) (first.down lines) (rest.map (Lexeme.down lines)) =
      (step context first rest).down lines := by
  rw [step, step, Context.isInside_down]
  split
  · exact stepInside_down context first rest
  · exact stepOutside_down first rest

end Steps

end Parts

/-! ## Tokens further down -/

/-- Lexemes further down are read as the same tokens, further down. -/
theorem tokensFrom_down (context : Context) (lexemes : List Lexeme) :
    tokensFrom (context.down lines) (lexemes.map (Lexeme.down lines)) =
      (tokensFrom context lexemes).map (Token.down lines) := by
  fun_induction tokensFrom context lexemes with
  | case1 context => rw [List.map_nil, tokensFrom_nil, Context.atEnd_down]
  | case2 context first rest made ih =>
    rw [List.map_cons, tokensFrom_cons, step_down, Step.down, ih, List.map_append]

/-- Lexemes of a text that stands further down are read as the tokens of the text, further down. -/
theorem tokensFrom_lex_down (text : String) :
    tokensFrom .outside ((lex text).map (Lexeme.down lines)) = (tokenize text).map (Token.down lines) := by
  have outside := tokensFrom_down lines .outside (lex text)
  rwa [Context.down_outside] at outside

/-- An empty line above a text moves its tokens down by one line. -/
theorem tokenize_newline (text : String) : tokenize ("\n" ++ text) = (tokenize text).map (Token.down 1) := by
  have lexemes : lex ("\n" ++ text) = (lex text).map (Lexeme.down 1) := by
    rw [lex, String.toList_append, show "\n".toList = ['\n'] from rfl, List.singleton_append,
      lexFrom_newline, lexFrom_add, lex]
  rw [tokenize, lexemes, tokensFrom_lex_down]

end Codebook.Definition
