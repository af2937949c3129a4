import Codebook.Proofs.Definition.Written

/-!
# Reading back what is written

The reader makes of the lexemes of an item, a block or the frame of a list exactly the tokens of what
was written, in any context and whatever follows: `tokensFrom_joinEntries` for items with commas between
them, `tokensFrom_flatMap_lines` for headers with their blocks, `tokenize_frame` for a whole list. What
stands in the strings plays no part in it.
-/

namespace Codebook.Definition

open Codebook.Text

variable {context : Context} {line : Nat} {rest : List Lexeme}

/-! ## Single steps -/

theorem tokensFrom_nil (context : Context) : tokensFrom context [] = context.atEnd := by
  rw [tokensFrom]

theorem tokensFrom_cons (context : Context) (first : Lexeme) (rest : List Lexeme) :
    tokensFrom context (first :: rest) =
      (step context first rest).tokens
        ++ tokensFrom (step context first rest).context (step context first rest).rest := by
  rw [tokensFrom]

theorem Context.eq_outside (notInside : ¬context.isInside = true) : context = .outside := by
  rcases context with ⟨inList, blocks⟩
  simp only [Context.isInside, Bool.or_eq_true, Bool.not_eq_true', not_or, Bool.not_eq_true,
    Bool.not_eq_false, List.isEmpty_iff] at notInside
  rw [Context.outside, notInside.1, notInside.2]

theorem Context.isInside_cons (inList : Bool) (block : OpenBlock) (outer : List OpenBlock) :
    (⟨inList, block :: outer⟩ : Context).isInside = true := by
  rw [Context.isInside, List.isEmpty_cons, Bool.not_false, Bool.or_true]

/-- Where lexemes do not begin with a mark, the first of them is another one. -/
theorem form_ne_of_noMark {mark : Mark} {lexemes : List Lexeme}
    (noMark : ∀ line rest, lexemes ≠ ⟨.mark mark, line⟩ :: rest) :
    ∀ l ∈ lexemes.head?, l.form ≠ .mark mark := by
  rcases lexemes with _ | ⟨⟨form, line⟩, rest⟩
  · rintro l ⟨⟩
  · rintro l ⟨⟩ rfl
    exact noMark line rest rfl

/-- Lexemes begin with a mark or they do not. -/
theorem begins_or_form_ne (mark : Mark) (lexemes : List Lexeme) :
    (∃ line rest, lexemes = ⟨.mark mark, line⟩ :: rest) ∨ ∀ l ∈ lexemes.head?, l.form ≠ .mark mark := by
  by_cases begins : ∃ line rest, lexemes = ⟨.mark mark, line⟩ :: rest
  · exact .inl begins
  · exact .inr (form_ne_of_noMark fun line rest same => begins ⟨line, rest, same⟩)

/-- Whether a mark is passed over wherever an entry may stand. -/
def Mark.IsPassed (mark : Mark) : Prop :=
  mark = .comma ∨ mark = .semicolon

section Passed

variable {mark : Mark} (passed : mark.IsPassed)
include passed

theorem step_passed : step context ⟨.mark mark, line⟩ rest = ⟨[], context, rest⟩ := by
  unfold step
  split
  · rcases passed with rfl | rfl <;> rfl
  · next notInside =>
    obtain rfl := Context.eq_outside notInside
    rcases passed with rfl | rfl <;> rfl

theorem tokensFrom_passed :
    tokensFrom context (⟨.mark mark, line⟩ :: rest) = tokensFrom context rest := by
  rw [tokensFrom_cons, step_passed passed]
  rfl

/-- It makes no difference whether the mark after an entry or a list goes with what it follows. -/
theorem tokensFrom_dropMark (lexemes : List Lexeme) :
    tokensFrom context (dropMark mark lexemes) = tokensFrom context lexemes := by
  fun_cases dropMark mark lexemes with
  | case1 l rest here =>
    rcases l with ⟨form, line⟩
    obtain rfl : form = .mark mark := beq_iff_eq.1 here
    exact (tokensFrom_passed passed).symm
  | case2 => rfl
  | case3 => rfl

end Passed

/-! ## Entries -/

theorem isCode_name {code : String} (nonempty : code ≠ "") (line : Nat) :
    (⟨.word ("_" ++ code), line⟩ : Lexeme).isCode = true := by
  have nonemptyChars : code.toList ≠ [] := fun empty => nonempty (String.toList_eq_nil_iff.1 empty)
  obtain ⟨c, chars, split⟩ := List.exists_cons_of_ne_nil nonemptyChars
  simp only [Lexeme.isCode, String.toList_append, split]
  rfl

/-- A code begins an entry wherever it stands. -/
theorem step_code (context : Context) (first : Lexeme) (rest : List Lexeme) (code : first.isCode = true) :
    step context first rest = readEntry context first rest := by
  rcases first with ⟨form, line⟩
  cases form with
  | word text =>
    unfold step
    split
    · rw [stepInside, if_pos code]
    · next notInside =>
      obtain rfl := Context.eq_outside notInside
      exact if_pos code
  | string written => cases code
  | mark mark => cases code
  | strayQuote => cases code

theorem step_name {code : String} (nonempty : code ≠ "") :
    step context ⟨.word ("_" ++ code), line⟩ rest =
      readEntry context ⟨.word ("_" ++ code), line⟩ rest :=
  step_code context _ rest (isCode_name nonempty line)

theorem entryBody?_string (written : String) (noBracket : ∀ l ∈ rest.head?, l.form ≠ .mark .openBracket) :
    entryBody? (⟨.string written, line⟩ :: rest) = some (unquote written, [], rest) := by
  rcases rest with _ | ⟨⟨form, below⟩, rest⟩
  · rfl
  · rw [entryBody?]
    rintro other after same
    cases same
    exact noBracket _ rfl rfl

/-- The code that a lexeme stands for. -/
theorem drop_name (code : String) (line : Nat) :
    String.ofList ((⟨.word ("_" ++ code), line⟩ : Lexeme).text.toList.drop 1) = code := by
  rw [Lexeme.text, String.toList_append]
  exact String.ofList_toList

section ReadEntry

variable {code : String} {label : String} {properties : Properties} {entry left : List Lexeme}

theorem readEntry_item (body : entryBody? entry = some (label, properties, left))
    (noBrace : ∀ l ∈ left.head?, l.form ≠ .mark .openBrace) :
    readEntry context ⟨.word ("_" ++ code), line⟩ entry =
      ⟨[.item code label line properties], context, dropMark .comma left⟩ := by
  rw [readEntry, body]
  simp only [drop_name]
  rcases left with _ | ⟨⟨form, below⟩, left⟩
  · rfl
  · split
    · next same =>
      cases same
      exact absurd rfl (noBrace _ rfl)
    · rfl

theorem readEntry_header {brace : Nat}
    (body : entryBody? entry = some (label, properties, ⟨.mark .openBrace, brace⟩ :: left)) :
    readEntry context ⟨.word ("_" ++ code), line⟩ entry =
      ⟨[.headerOpen code label line properties, .blockOpen brace],
        { context with blocks := ⟨code, line⟩ :: context.blocks }, left⟩ := by
  rw [readEntry, body]
  simp only [drop_name]

theorem readEntry_skipped (none : entryBody? entry = none) :
    readEntry context ⟨.word ("_" ++ code), line⟩ entry =
      skipFragment context ⟨.word ("_" ++ code), line⟩ entry := by
  rw [readEntry, none]

end ReadEntry

namespace WrittenItem

variable {item : WrittenItem} (readable : item.IsReadable)
include readable

/-- The label and the properties of an item are read back, whatever follows but a bracket. -/
theorem entryBody?_bodyLexemes (line : Nat) (noBracket : ∀ l ∈ rest.head?, l.form ≠ .mark .openBracket) :
    entryBody? (item.bodyLexemes line ++ rest) =
      some (onOneLine item.label, item.properties, rest) := by
  rcases item with ⟨code, label, _ | ⟨key, codes⟩⟩
  · rw [← unquote_writtenLabel label]
    exact entryBody?_string _ noBracket
  · show entryBody? (⟨.string (writtenLabel label), line⟩ :: ⟨.mark .openBracket, line + 1⟩
      :: ⟨.word key, line + 2⟩ :: ⟨.mark .equals, line + 2⟩ :: ⟨.string (codesValue codes), line + 2⟩
      :: ⟨.mark .closeBracket, line + 3⟩ :: rest) = _
    rw [entryBody?, readProperties, readProperties, unquote_writtenLabel]
    rfl

/-- An item is read as its token wherever it stands, unless a block follows it. -/
theorem tokensFrom_lexemes (noBracket : ∀ l ∈ rest.head?, l.form ≠ .mark .openBracket)
    (noBrace : ∀ l ∈ rest.head?, l.form ≠ .mark .openBrace) :
    tokensFrom context (item.lexemes line ++ rest) =
      item.token line :: tokensFrom context rest := by
  have body := entryBody?_bodyLexemes readable line noBracket
  rw [lexemes, List.cons_append, tokensFrom_cons, step_name readable.code.1,
    readEntry_item body noBrace, tokensFrom_dropMark (.inl rfl)]
  rfl

/-- An item with a comma after it is read as its token wherever it stands, whatever follows. -/
theorem tokensFrom_withComma {margin : String} (blank : ∀ c ∈ margin.toList, isBlank c = true)
    (marginLine : '\n' ∉ margin.toList) (line : Nat) (rest : List Lexeme) :
    tokensFrom context (lexLines line (withComma (item.lines margin)) ++ rest) =
      item.token line :: tokensFrom context rest := by
  rw [lexLines_withComma (lines_ne_nil margin item) (sameLine_lines readable marginLine),
    lexLines_lines readable blank marginLine, List.append_assoc, List.singleton_append,
    tokensFrom_lexemes readable, tokensFrom_passed (.inl rfl)]
  · rintro l ⟨⟩ same
    cases same
  · rintro l ⟨⟩ same
    cases same

end WrittenItem

/-! ## Items with commas between them -/

section Items

variable {items : List WrittenItem} (readable : ∀ item ∈ items, item.IsReadable)
  {margin : String} (blank : ∀ c ∈ margin.toList, isBlank c = true)
  (marginLine : '\n' ∉ margin.toList)
include readable blank marginLine

theorem tokensFrom_joinEntries (noBracket : ∀ l ∈ rest.head?, l.form ≠ .mark .openBracket)
    (noBrace : ∀ l ∈ rest.head?, l.form ≠ .mark .openBrace) :
    tokensFrom context
        (lexLines line (joinEntries (items.map (WrittenItem.lines margin))) ++ rest) =
      WrittenBlock.itemTokens line items ++ tokensFrom context rest := by
  induction items generalizing line with
  | nil => rfl
  | cons item others ih =>
    have first := readable item List.mem_cons_self
    rcases others with _ | ⟨next, others⟩
    · rw [List.map_singleton, joinEntries, WrittenItem.lexLines_lines first blank marginLine,
        WrittenItem.tokensFrom_lexemes first noBracket noBrace]
      rfl
    · have below := @ih (line + item.height) fun item member => readable item (.tail _ member)
      rw [List.map_cons, List.map_cons, joinEntries, lexLines_append, length_withComma,
        WrittenItem.length_lines, List.append_assoc,
        WrittenItem.tokensFrom_withComma first blank marginLine, ← List.map_cons, below]
      · rfl
      · exact List.cons_ne_nil _ _

end Items

/-! ## Blocks -/

namespace WrittenBlock

theorem isKeyword_fix (line : Nat) : (⟨.word "fix", line⟩ : Lexeme).isKeyword "fix" = true := by
  show (lower "fix" == "fix") = true
  decide +kernel

theorem lexFrom_lastLine (line : Nat) (closing : BlockEnd) :
    lexFrom line (lastLine closing).toList =
      [⟨.mark .closeBrace, line⟩,
        ⟨match closing with | .group => .mark .comma | .fix => .word "fix", line⟩] := by
  cases closing with
  | group =>
    show lexFrom line [Mark.closeBrace.char, Mark.comma.char] = _
    rw [lexFrom_mark, lexFrom_mark, lexFrom_nil]
  | fix =>
    show lexFrom line (Mark.closeBrace.char :: ' ' :: ("fix".toList ++ [])) = _
    rw [lexFrom_mark, lexFrom_blank (by decide) (by decide),
      lexFrom_isWord (by decide) line (by simp), lexFrom_nil]

/-- The last line of a block closes the innermost block that is open. -/
theorem tokensFrom_lastLine (inList : Bool) (block : OpenBlock) (outer : List OpenBlock) (line : Nat)
    (closing : BlockEnd) (rest : List Lexeme) :
    tokensFrom ⟨inList, block :: outer⟩ (lexFrom line (lastLine closing).toList ++ rest) =
      .blockClose closing line :: tokensFrom ⟨inList, outer⟩ rest := by
  rw [lexFrom_lastLine, List.cons_append, tokensFrom_cons, step,
    if_pos (Context.isInside_cons inList block outer)]
  cases closing with
  | group => rfl
  | fix =>
    have closed : stepInside ⟨inList, block :: outer⟩ ⟨.mark .closeBrace, line⟩
        ([⟨.word "fix", line⟩] ++ rest) =
          ⟨[.blockClose .fix line], ⟨inList, outer⟩, dropMark .comma rest⟩ := by
      show closeBlock ⟨inList, outer⟩ line (⟨.word "fix", line⟩ :: rest) = _
      rw [closeBlock, if_pos (isKeyword_fix line)]
    rw [closed, tokensFrom_dropMark (.inl rfl)]
    rfl

theorem length_joinEntries (margin : String) (items : List WrittenItem) :
    (joinEntries (items.map (WrittenItem.lines margin))).length =
      items.foldr (fun item total => item.height + total) 0 := by
  induction items with
  | nil => rfl
  | cons item others ih =>
    rcases others with _ | ⟨next, others⟩
    · simp only [List.map_cons, List.map_nil, joinEntries, WrittenItem.length_lines, List.foldr_cons,
        List.foldr_nil, Nat.add_zero]
    · have split : (joinEntries ((item :: next :: others).map (WrittenItem.lines margin))).length =
          item.height + (joinEntries ((next :: others).map (WrittenItem.lines margin))).length := by
        rw [List.map_cons, joinEntries, List.length_append, length_withComma,
          WrittenItem.length_lines]
        exact List.cons_ne_nil _ _
      rw [split, ih]
      rfl

theorem length_lines (block : WrittenBlock) : block.lines.length = block.height := by
  rw [lines, List.length_append, List.length_append, length_joinEntries, height, innerHeight]
  simp only [List.length_cons, List.length_nil]
  omega

section Readable

variable {block : WrittenBlock} (readable : block.IsReadable)
include readable

/-- A header and its block are read as their tokens in any context. -/
theorem tokensFrom_lines (context : Context) (line : Nat) (rest : List Lexeme) :
    tokensFrom context (lexLines line block.lines ++ rest) =
      block.tokens line ++ tokensFrom context rest := by
  have opened : lexLines line [heading block.code block.label, "\x7b"] =
      [⟨.word ("_" ++ block.code), line⟩, ⟨.string (writtenLabel block.label), line⟩,
        ⟨.mark .openBrace, line + 1⟩] := by
    have brace : lexFrom (line + 1) "\x7b".toList = [⟨.mark .openBrace, line + 1⟩] :=
      (lexFrom_mark .openBrace).trans (by rw [lexFrom_nil])
    rw [lexLines, lexLines, lexLines, brace, ← List.append_nil (heading _ _).toList,
      lexFrom_heading readable.code block.label line (by simp), lexFrom_nil]
    rfl
  have height : ([heading block.code block.label, "\x7b"]
      ++ joinEntries (block.items.map (WrittenItem.lines indent))).length =
        2 + block.innerHeight := by
    rw [List.length_append, length_joinEntries]
    rfl
  have last : ∀ l ∈ (lexFrom (line + (2 + block.innerHeight)) (lastLine block.closing).toList
      ++ rest).head?, l.form = .mark .closeBrace := by
    rw [lexFrom_lastLine]
    rintro l ⟨⟩
    rfl
  have inner := @tokensFrom_joinEntries { context with blocks := ⟨block.code, line⟩ :: context.blocks }
    (line + 2) (lexFrom (line + (2 + block.innerHeight)) (lastLine block.closing).toList ++ rest)
    block.items readable.items indent (by decide) (by decide)
    (fun l member same => by cases (last l member).symm.trans same)
    (fun l member same => by cases (last l member).symm.trans same)
  have body : ∀ more, entryBody? (⟨.string (writtenLabel block.label), line⟩
      :: ⟨.mark .openBrace, line + 1⟩ :: more) =
        some (onOneLine block.label, [], ⟨.mark .openBrace, line + 1⟩ :: more) := by
    intro more
    rw [← unquote_writtenLabel]
    exact entryBody?_string _ (by rintro l ⟨⟩ same; cases same)
  rw [lines, lexLines_append, lexLines_append, opened, height, lexLines, lexLines, List.append_nil,
    List.append_assoc, List.append_assoc, List.cons_append, List.cons_append, List.singleton_append,
    tokensFrom_cons, step_name readable.code.1, readEntry_header (body _)]
  show [_, _] ++ tokensFrom _ (lexLines (line + 2) _ ++ _) = _
  rw [inner, tokensFrom_lastLine, tokens, ← Nat.add_assoc]
  simp only [List.cons_append, List.nil_append, List.append_assoc]

end Readable

/-- Headers and their blocks, one after the other, are read as their tokens in any context. -/
theorem tokensFrom_flatMap_lines {blocks : List WrittenBlock}
    (readable : ∀ block ∈ blocks, block.IsReadable) (context : Context) (line : Nat)
    (rest : List Lexeme) :
    tokensFrom context (lexLines line (blocks.flatMap lines) ++ rest) =
      tokensOf line blocks ++ tokensFrom context rest := by
  induction blocks generalizing line with
  | nil => rfl
  | cons block others ih =>
    have below := ih fun other member => readable other (.tail _ member)
    rw [List.flatMap_cons, lexLines_append, length_lines, List.append_assoc,
      tokensFrom_lines (readable block List.mem_cons_self), below, tokensOf, List.append_assoc]

end WrittenBlock

/-! ## The frame of a list -/

theorem isKeyword_define (line : Nat) : (⟨.word "define", line⟩ : Lexeme).isKeyword "define" = true := by
  show (lower "define" == "define") = true
  decide +kernel

theorem isCode_eq_false {name : String} (noCode : name.toList.head? ≠ some '_') (line : Nat) :
    (⟨.word name, line⟩ : Lexeme).isCode = false := by
  simp only [Lexeme.isCode]
  split
  · next split =>
    rw [split] at noCode
    exact absurd rfl noCode
  · rfl

theorem lexLines_opening {name : String} (word : IsWord name) (line : Nat) :
    lexLines line (opening name) =
      [⟨.word name, line⟩, ⟨.string "", line⟩, ⟨.word "define", line⟩,
        ⟨.mark .openBrace, line + 1⟩] := by
  have brace : lexFrom (line + 1) "\x7b".toList = [⟨.mark .openBrace, line + 1⟩] :=
    (lexFrom_mark .openBrace).trans (by rw [lexFrom_nil])
  have stop : ∀ c ∈ (" \"\" define".toList).head?, isWordChar c = false := by
    rintro c ⟨⟩
    decide
  have keyword : lexFrom line " \"\" define".toList =
      [⟨.string "", line⟩, ⟨.word "define", line⟩] := by
    show lexFrom line (' ' :: '"' :: '"' :: ' ' :: ("define".toList ++ [])) = _
    rw [lexFrom_blank (by decide) (by decide), lexFrom_string (closing?_quote (by decide)),
      lexFrom_blank (by decide) (by decide), lexFrom_isWord (by decide) line (by simp), lexFrom_nil]
  rw [opening, lexLines, lexLines, lexLines, brace, String.toList_append,
    lexFrom_isWord word line stop, keyword]
  rfl

/-- The first two lines of a list open it, whatever follows. -/
theorem tokensFrom_opening {name : String} (word : IsWord name)
    (noCode : name.toList.head? ≠ some '_') (line : Nat) (rest : List Lexeme) :
    tokensFrom .outside (lexLines line (opening name) ++ rest) =
      .listOpen name line :: tokensFrom ⟨true, []⟩ rest := by
  have code := isCode_eq_false noCode line
  have opened : stepOutside ⟨.word name, line⟩ (⟨.string "", line⟩ :: ⟨.word "define", line⟩
      :: ⟨.mark .openBrace, line + 1⟩ :: rest) = ⟨[.listOpen name line], ⟨true, []⟩, rest⟩ := by
    rw [stepOutside]
    simp only
    rw [if_neg (by rw [code]; exact Bool.false_ne_true), afterListName?,
      if_pos (isKeyword_define line)]
  rw [lexLines_opening word, List.cons_append, List.cons_append, List.cons_append,
    List.singleton_append, tokensFrom_cons, step, if_neg (by decide), opened]
  rfl

theorem lexLines_ending (line : Nat) :
    lexLines line [ending] = [⟨.mark .closeBrace, line⟩, ⟨.mark .semicolon, line⟩] := by
  show lexFrom line [Mark.closeBrace.char, Mark.semicolon.char] ++ [] = _
  rw [lexFrom_mark, lexFrom_mark, lexFrom_nil]
  rfl

/-- The last line of a list closes it. -/
theorem tokensFrom_ending (line : Nat) (rest : List Lexeme) :
    tokensFrom ⟨true, []⟩ (lexLines line [ending] ++ rest) =
      .listClose line :: tokensFrom .outside rest := by
  rw [lexLines_ending, List.cons_append, tokensFrom_cons]
  rfl

/-! ## Texts of lists -/

theorem sameLine_opening {name : String} (word : IsWord name) :
    ∀ text ∈ opening name, '\n' ∉ text.toList := by
  intro text member
  simp only [opening, List.mem_cons, List.not_mem_nil, or_false] at member
  rcases member with rfl | rfl
  · rw [String.toList_append, List.mem_append, not_or]
    exact ⟨word.newline_not_mem, by decide⟩
  · decide

/-- What stands in the frame of a list is read between the tokens of the frame. -/
theorem tokenize_frame {name : String} {inner : List String} {tokens : List Token} (word : IsWord name)
    (noCode : name.toList.head? ≠ some '_') (sameLine : ∀ text ∈ inner, '\n' ∉ text.toList)
    (read : tokensFrom ⟨true, []⟩ (lexLines 3 inner ++ lexLines (3 + inner.length) [ending]) =
      tokens ++ tokensFrom ⟨true, []⟩ (lexLines (3 + inner.length) [ending])) :
    tokenize ("\n".intercalate (opening name ++ inner ++ [ending])) =
      .listOpen name 1 :: (tokens ++ [.listClose (3 + inner.length)]) := by
  have lines : ∀ text ∈ opening name ++ inner ++ [ending], '\n' ∉ text.toList := by
    intro text member
    rcases List.mem_append.1 member with member | member
    · rcases List.mem_append.1 member with member | member
      · exact sameLine_opening word text member
      · exact sameLine text member
    · rw [List.mem_singleton.1 member]
      decide
  have opened : (opening name).length = 2 := rfl
  have closed : tokensFrom ⟨true, []⟩ (lexLines (3 + inner.length) [ending]) =
      [.listClose (3 + inner.length)] := by
    rw [← List.append_nil (lexLines _ [ending]), tokensFrom_ending, tokensFrom_nil]
    rfl
  rw [tokenize, lex, lexFrom_intercalate lines, lexLines_append, lexLines_append, List.append_assoc,
    tokensFrom_opening word noCode, List.length_append, opened, ← Nat.add_assoc, read, closed]

theorem sameLine_joinEntries {entries : List (List String)}
    (sameLine : ∀ entry ∈ entries, ∀ text ∈ entry, '\n' ∉ text.toList) :
    ∀ text ∈ joinEntries entries, '\n' ∉ text.toList := by
  fun_induction joinEntries entries with
  | case1 =>
    intro text member
    cases member
  | case2 entry => exact sameLine entry List.mem_cons_self
  | case3 entry rest _ ih =>
    intro text member
    rcases List.mem_append.1 member with member | member
    · exact sameLine_withComma (sameLine entry List.mem_cons_self) text member
    · exact ih (fun other among => sameLine other (.tail _ among)) text member

namespace WrittenBlock

theorem sameLine_lines {block : WrittenBlock} (readable : block.IsReadable) :
    ∀ text ∈ block.lines, '\n' ∉ text.toList := by
  intro text member
  simp only [lines, List.mem_append, List.mem_cons, List.not_mem_nil, or_false] at member
  rcases member with ((rfl | rfl) | member) | rfl
  · exact sameLine_heading readable.code block.label
  · decide
  · refine sameLine_joinEntries (fun entry among => ?_) text member
    obtain ⟨item, inside, rfl⟩ := List.mem_map.1 among
    exact WrittenItem.sameLine_lines (readable.items item inside) (by decide)
  · cases block.closing <;> decide

/-- A text of headers and their blocks in the frame of a list is read as their tokens. -/
theorem tokenize_lines {name : String} {blocks : List WrittenBlock} (word : IsWord name)
    (noCode : name.toList.head? ≠ some '_') (readable : ∀ block ∈ blocks, block.IsReadable) :
    tokenize ("\n".intercalate (opening name ++ blocks.flatMap lines ++ [ending])) =
      .listOpen name 1
        :: (tokensOf 3 blocks ++ [.listClose (3 + (blocks.flatMap lines).length)]) := by
  refine tokenize_frame word noCode (fun text member => ?_) (tokensFrom_flatMap_lines readable _ _ _)
  obtain ⟨block, among, inside⟩ := List.mem_flatMap.1 member
  exact sameLine_lines (readable block among) text inside

end WrittenBlock

/-- A text of items in the frame of a list is read as their tokens. -/
theorem WrittenItem.tokenize_lines {name : String} {items : List WrittenItem} (word : IsWord name)
    (noCode : name.toList.head? ≠ some '_') (readable : ∀ item ∈ items, item.IsReadable) :
    tokenize ("\n".intercalate (opening name ++ joinEntries (items.map (lines "")) ++ [ending])) =
      .listOpen name 1 :: (WrittenBlock.itemTokens 3 items
        ++ [.listClose (3 + (joinEntries (items.map (lines ""))).length)]) := by
  refine tokenize_frame word noCode (sameLine_joinEntries fun entry among => ?_) ?_
  · obtain ⟨item, inside, rfl⟩ := List.mem_map.1 among
    exact sameLine_lines (readable item inside) (by decide)
  · have last : ∀ l ∈ (lexLines (3 + (joinEntries (items.map (lines ""))).length) [ending]).head?,
        l.form = .mark .closeBrace := by
      rw [lexLines_ending]
      rintro l ⟨⟩
      rfl
    exact tokensFrom_joinEntries readable (by decide) (by decide)
      (fun l member same => by cases (last l member).symm.trans same)
      (fun l member same => by cases (last l member).symm.trans same)

end Codebook.Definition
