import Codebook.Proofs.Definition.Nesting
import Codebook.Proofs.ImportRow.Reading

/-!
# Texts that are cut off

A text that is cut off inside of a block has a malformed token for it. Nothing reports the two other places:
after the word `define` of a list, where no brace follows (`ListWithoutBody`), and inside of a list where no
block is open. A step opens a list, closes it, names one without a body or leaves the list alone (`OnList`),
so along a reading each list is closed, has no body or is the one still open (`closesFirst_of_reaches`).
In a text without malformed tokens each list is therefore followed by its own end unless the text is cut off
in one of these places, and a strict reading accepts the cut (`closed_iff_of_readable`).
-/

namespace Codebook.Definition

open Codebook.Text

/-! ## Lists and their ends -/

/-- Whether a list is opened or closed by a token. -/
def Token.isOfList (token : Token) : Bool :=
  token.readIn?.isSome

/-- Whether tokens close a list before they open or close another one. -/
def ClosesFirst (tokens : List Token) : Prop :=
  ∃ line, tokens.find? Token.isOfList = some (.listClose line)

/-- Whether each list of tokens is followed by its own end, in front of every other list. -/
def ListsClosed (tokens : List Token) : Prop :=
  ∀ before name line after, tokens = before ++ .listOpen name line :: after → ClosesFirst after

/-- Whether the reader of a text comes, behind some tokens, to the opening of a list that no brace
follows. -/
def ListWithoutBody (text : String) (before : List Token) : Prop :=
  ∃ name line rest left, Reaches text before .outside (⟨.word name, line⟩ :: rest) ∧
    (⟨.word name, line⟩ : Lexeme).isCode = false ∧ afterListName? rest = some left ∧
      ∀ l ∈ left.head?, l.form ≠ .mark .openBrace

section Tokens

variable {tokens more : List Token}

theorem ClosesFirst.append (closes : ClosesFirst tokens) (more : List Token) :
    ClosesFirst (tokens ++ more) := by
  obtain ⟨line, found⟩ := closes
  exact ⟨line, by rw [List.find?_append, found, Option.some_or]⟩

/-- A token of two lists of tokens is one of the first or one of the second. -/
theorem exists_of_append_eq {token : Token} {before after : List Token}
    (split : tokens ++ more = before ++ token :: after) :
    (∃ own, tokens = before ++ token :: own ∧ after = own ++ more) ∨
      ∃ earlier, before = tokens ++ earlier ∧ more = earlier ++ token :: after := by
  rcases List.append_eq_append_iff.1 split with ⟨earlier, atEnd, own⟩ | ⟨own, atEnd, own'⟩
  · exact .inr ⟨earlier, atEnd, own⟩
  · rcases own with _ | ⟨t, own⟩
    · exact .inr ⟨[], by rw [atEnd, List.append_nil, List.append_nil], own'.symm⟩
    · obtain ⟨rfl, rest⟩ := List.cons.inj own'
      exact .inl ⟨own, atEnd, rest⟩

theorem find?_isOfList_eq_none (without : ∀ token ∈ tokens, token.readIn? = none) :
    tokens.find? Token.isOfList = none := by
  rw [List.find?_eq_none]
  intro token member ofList
  rw [Token.isOfList, without token member] at ofList
  cases ofList

theorem not_closesFirst (without : ∀ token ∈ tokens, token.readIn? = none) : ¬ClosesFirst tokens := by
  rintro ⟨line, found⟩
  cases (find?_isOfList_eq_none without).symm.trans found

theorem closesFirst_append (without : ∀ token ∈ tokens, token.readIn? = none) (line : Nat) :
    ClosesFirst (tokens ++ [.listClose line]) :=
  ⟨line, by rw [List.find?_append, find?_isOfList_eq_none without]; rfl⟩

/-- What stands in a list opens and closes none. -/
theorem Derives.readIn?_eq_none {cut : Bool} {part : Part} (derives : Derives cut part tokens)
    (inner : part = .body ∨ part = .entry) : ∀ token ∈ tokens, token.readIn? = none := by
  induction derives with
  | item | emptyBody => simp [Token.readIn?]
  | block _ _ _ _ _ _ _ _ ih | openBlock _ _ _ _ _ _ _ ih =>
    rw [List.forall_mem_cons, List.forall_mem_cons, List.forall_mem_append, List.forall_mem_singleton]
    exact ⟨rfl, rfl, ih (.inl rfl), rfl⟩
  | bodyFragment _ _ _ ih =>
    rw [List.forall_mem_cons]
    exact ⟨rfl, ih (.inl rfl)⟩
  | bodyEntry _ _ entry body =>
    rw [List.forall_mem_append]
    exact ⟨entry (.inr rfl), body (.inl rfl)⟩
  | _ => simp at inner

end Tokens

/-! ## Steps -/

/-- What a step does to the list that is open: it leaves it alone, closes it, opens one, or names one
without a body. -/
inductive OnList (context : Context) (first : Lexeme) (rest : List Lexeme) : Step → Prop
  | keeps {made : Step} :
    (∀ token ∈ made.tokens, token.readIn? = none) → made.context.inList = context.inList →
    OnList context first rest made
  | closes (left : List Lexeme) :
    context = ⟨true, []⟩ → OnList context first rest ⟨[.listClose first.line], .outside, left⟩
  | opens (name : String) (left : List Lexeme) :
    context = .outside → OnList context first rest ⟨[.listOpen name first.line], ⟨true, []⟩, left⟩
  | names (name : String) (left : List Lexeme) :
    context = .outside → first.form = .word name → first.isCode = false →
    afterListName? rest = some left → (∀ l ∈ left.head?, l.form ≠ .mark .openBrace) →
    OnList context first rest ⟨[.listOpen name first.line], .outside, left⟩

section Steps

variable (context : Context) (first : Lexeme) (rest : List Lexeme)

theorem onList_skipFragment : OnList context first rest (skipFragment context first rest) :=
  .keeps readIn?_skipFragment rfl

theorem onList_readEntry : OnList context first rest (readEntry context first rest) := by
  refine .keeps readIn?_readEntry ?_
  fun_cases readEntry context first rest <;> rfl

theorem onList_closeBlock (outer : List OpenBlock) (line : Nat) :
    OnList context first rest (closeBlock { context with blocks := outer } line rest) := by
  refine .keeps readIn?_closeBlock ?_
  fun_cases closeBlock { context with blocks := outer } line rest <;> rfl

theorem onList_openList {name : String} (word : first.form = .word name)
    (noCode : first.isCode = false) :
    OnList .outside first rest (openList name first rest) := by
  cases opening : afterListName? rest with
  | none =>
    rw [openList_skipped opening]
    exact onList_skipFragment .outside first rest
  | some left =>
    rcases begins_or_form_ne .openBrace left with ⟨braceLine, more, rfl⟩ | noBrace
    · rw [openList_body opening]
      exact .opens name more rfl
    · rw [openList_bare opening noBrace]
      exact .names name left rfl word noCode opening noBrace

/-- Each step leaves the list that is open alone, closes it, opens one or names one. -/
theorem onList_step : OnList context first rest (step context first rest) := by
  cases code : first.isCode with
  | true =>
    rw [step_code context first rest code]
    exact onList_readEntry context first rest
  | false =>
    have action := action_step context first
    generalize step context first = act at action ⊢
    cases action with
    | passSeparator _ => exact .keeps nofun rfl
    | closeBlock _ => exact onList_closeBlock context first rest _ first.line
    | closeList only => exact .closes _ only
    | readEntry _ => exact onList_readEntry context first rest
    | openList name outside word =>
      rw [outside]
      exact onList_openList first rest word code
    | skipFragment => exact onList_skipFragment context first rest

variable {context first rest} {made : Step}

/-- In a list a step stays, and opens and closes none, or it closes the list. -/
theorem OnList.inList (onList : OnList context first rest made) (inList : context.inList = true) :
    (made.context.inList = true ∧ ∀ token ∈ made.tokens, token.readIn? = none) ∨
      ∃ line, made.tokens = [.listClose line] := by
  cases onList with
  | keeps without same => exact .inl ⟨same.trans inList, without⟩
  | closes left _ => exact .inr ⟨first.line, rfl⟩
  | opens _ _ outside | names _ _ outside _ _ _ _ =>
    rw [outside] at inList
    cases inList

/-- A step that opens a list comes to be in it, unless no brace follows. -/
theorem OnList.opened {name : String} {line : Nat} {after : List Token}
    (onList : OnList context first rest made) (opened : made.tokens = .listOpen name line :: after) :
    after = [] ∧ (made.context.inList = true ∨ context = .outside ∧ first = ⟨.word name, line⟩ ∧
      first.isCode = false ∧ ∃ left, afterListName? rest = some left ∧
        ∀ l ∈ left.head?, l.form ≠ .mark .openBrace) := by
  cases onList with
  | keeps without _ =>
    rw [opened] at without
    cases without _ List.mem_cons_self
  | closes _ _ => cases opened
  | opens _ _ _ =>
    cases opened
    exact ⟨rfl, .inl rfl⟩
  | names _ left outside word noCode opening noBrace =>
    cases opened
    exact ⟨rfl, .inr ⟨outside, by rw [← word], noCode, left, opening, noBrace⟩⟩

end Steps

/-! ## Readings -/

section Readings

variable {text : String} {tokens : List Token} {context : Context} {lexemes : List Lexeme}

/-- What is left to read is read on from each point. -/
theorem tokenize_of_reaches (reached : Reaches text tokens context lexemes) :
    tokenize text = tokens ++ tokensFrom context lexemes := by
  induction reached with
  | start => rfl
  | step _ ih => rw [ih, tokensFrom_cons, List.append_assoc]

/-- Each list opened by then is closed again, has no body, or is the one that is open. -/
theorem closesFirst_of_reaches (reached : Reaches text tokens context lexemes)
    {before after : List Token} {name : String} {line : Nat}
    (split : tokens = before ++ .listOpen name line :: after) :
    ClosesFirst after ∨ ListWithoutBody text before ∨
      context.inList = true ∧ ∀ token ∈ after, token.readIn? = none := by
  induction reached generalizing after with
  | start => cases before <;> cases split
  | step reached ih =>
    rename_i tokens context first rest
    have onList := onList_step context first rest
    -- the list was opened before the step, or the step opens it
    rcases exists_of_append_eq split with ⟨own, rfl, rfl⟩ | ⟨earlier, rfl, opened⟩
    · rcases ih rfl with closed | bare | ⟨inList, without⟩
      · exact .inl (closed.append _)
      · exact .inr (.inl bare)
      · rcases onList.inList inList with ⟨stays, others⟩ | ⟨line, closes⟩
        · exact .inr (.inr ⟨stays, List.forall_mem_append.2 ⟨without, others⟩⟩)
        · rw [closes]
          exact .inl (closesFirst_append without line)
    · have frame : (Token.listOpen name line).readIn? = some .outside := rfl
      obtain ⟨rfl, _⟩ := step_readIn? frame opened
      rw [List.append_nil]
      obtain ⟨rfl, inList | ⟨rfl, rfl, noCode, left, opening, noBrace⟩⟩ := onList.opened opened
      · exact .inr (.inr ⟨inList, nofun⟩)
      · exact .inr (.inl ⟨name, line, rest, left, reached, noCode, opening, noBrace⟩)

/-- Outside of every list the next token of a list is no end. -/
theorem not_closesFirst_tokensFrom (outside : context.inList = false) :
    ¬ClosesFirst (tokensFrom context lexemes) := by
  fun_induction tokensFrom context lexemes with
  | case1 context => exact not_closesFirst (readIn?_atEnd context)
  | case2 context first rest made ih =>
    rintro ⟨line, found⟩
    have onList := onList_step context first rest
    rw [List.find?_append] at found
    change OnList context first rest made at onList
    generalize made = act at onList found ih
    cases onList with
    | keeps without same =>
      rw [find?_isOfList_eq_none without] at found
      exact ih (same.trans outside) ⟨line, found⟩
    | closes _ inside =>
      rw [inside] at outside
      cases outside
    | opens _ _ _ | names _ _ _ _ _ _ _ => cases found

/-- A list without a body is not closed. -/
theorem not_listsClosed_of_listWithoutBody {before : List Token} (bare : ListWithoutBody text before) :
    ¬ListsClosed (tokenize text) := by
  obtain ⟨name, line, rest, left, reached, noCode, opening, noBrace⟩ := bare
  have named : step .outside ⟨.word name, line⟩ rest = ⟨[.listOpen name line], .outside, left⟩ :=
    (step_word rest noCode).trans (openList_bare opening noBrace)
  have all := tokenize_of_reaches reached.step
  rw [named, List.append_assoc] at all
  exact fun closed => not_closesFirst_tokensFrom rfl (closed _ _ _ _ all)

/-- A list that the lexemes run out in is not closed. -/
theorem not_listsClosed_of_reaches_end (cut : Reaches text (tokenize text) ⟨true, []⟩ []) :
    ¬ListsClosed (tokenize text) := by
  have leftOpen := isOpen_of_reaches cut
  generalize tokenize text = tokens at leftOpen
  cases leftOpen with
  | inList name line _ body =>
    exact fun closed => not_closesFirst (body.readIn?_eq_none (.inl rfl)) (closed _ _ _ _ rfl)

end Readings

end Codebook.Definition

namespace Codebook.ImportRow

open Definition

/-! ## Texts without malformed tokens -/

/-- Whether no token of a text is malformed. -/
def Readable (text : String) : Prop :=
  ∀ token ∈ tokenize text, fragmentOf? token = none

/-- A text without malformed tokens is not cut off in a block. -/
theorem blocks_eq_nil_of_readable {text : String} (readable : Readable text) {last : Context}
    {front : List Token} (tail : tokenize text = front ++ last.atEnd) : last.blocks = [] := by
  rcases last with ⟨inList, _ | ⟨block, outer⟩⟩
  · rfl
  · have report : Context.unterminated block ∈ tokenize text := by
      rw [tail]
      exact List.mem_append_right _ List.mem_cons_self
    cases readable _ report

theorem listsClosed_of_readable {text : String} (readable : Readable text)
    (withBodies : ∀ before, ¬ListWithoutBody text before)
    (complete : ¬Reaches text (tokenize text) ⟨true, []⟩ []) : ListsClosed (tokenize text) := by
  obtain ⟨⟨inList, blocks⟩, front, tail, reached⟩ :=
    exists_reaches_end text .outside (lex text) [] .start
  have all : tokenize text = front ++ Context.atEnd ⟨inList, blocks⟩ := tail
  obtain rfl : blocks = [] := blocks_eq_nil_of_readable readable all
  rw [List.nil_append] at reached
  rw [Context.atEnd, List.map_nil, List.append_nil] at all
  intro before name line after split
  rcases closesFirst_of_reaches reached (all.symm.trans split) with closed | bare | ⟨inside, _⟩
  · exact closed
  · exact absurd bare (withBodies before)
  · obtain rfl : inList = true := inside
    exact absurd (all ▸ reached) complete

/-- A strict reading that succeeds meets no malformed token. -/
theorem readable_of_strict {alcoholic : List String} {completed : Option Bool} {text : String}
    {parsed : Parsed} (ok : (parse ⟨alcoholic, true, completed⟩ text).outcome = .ok parsed) :
    Readable text := by
  obtain ⟨none, _, _⟩ := ofTokens_eq_ok_iff.1 ok
  have unreadable : (tokenize text).filterMap fragmentOf? = [] := (List.append_eq_nil_iff.1 (none rfl)).1
  exact List.filterMap_eq_nil_iff.1 unreadable

/-- In a text without malformed tokens each list is followed by its own end, in front of every other list,
exactly if each list has a body and the text does not run out in a list. A strict reading accepts no text with
malformed tokens, but it accepts both of these. -/
theorem listsClosed_iff (text : String) :
    (Readable text → (ListsClosed (tokenize text) ↔
      (∀ before, ¬ListWithoutBody text before) ∧ ¬Reaches text (tokenize text) ⟨true, []⟩ [])) ∧
    ∀ alcoholic completed parsed, (parse ⟨alcoholic, true, completed⟩ text).outcome = .ok parsed →
      Readable text ∧ (ListsClosed (tokenize text) ↔
        (∀ before, ¬ListWithoutBody text before) ∧ ¬Reaches text (tokenize text) ⟨true, []⟩ []) := by
  have closed : Readable text → (ListsClosed (tokenize text) ↔
      (∀ before, ¬ListWithoutBody text before) ∧ ¬Reaches text (tokenize text) ⟨true, []⟩ []) := by
    refine fun readable => ⟨fun closed => ⟨fun before bare => ?_, fun cut => ?_⟩, ?_⟩
    · exact not_listsClosed_of_listWithoutBody bare closed
    · exact not_listsClosed_of_reaches_end cut closed
    · exact fun ⟨bodies, complete⟩ => listsClosed_of_readable readable bodies complete
  refine ⟨closed, fun alcoholic completed parsed ok => ?_⟩
  have readable := readable_of_strict ok
  exact ⟨readable, closed readable⟩

/-- A list with a body and an end. -/
def wholeList : String :=
  "L \"\" define \x7b\n_1 \"a\"\n\x7d;"

/-- The list cut off behind its opening brace. -/
def cutList : String :=
  "L \"\" define \x7b"

theorem tokenize_wholeList :
    tokenize wholeList = [.listOpen "L" 1, .item "1" "a" 2 [], .listClose 3] := by
  decide +kernel

theorem tokenize_cutList : tokenize cutList = [.listOpen "L" 1] := by
  decide +kernel

theorem listsClosed_wholeList : ListsClosed (tokenize wholeList) := by
  rw [tokenize_wholeList]
  intro before name line after split
  rcases before with _ | ⟨_, _ | ⟨_, _ | ⟨_, before⟩⟩⟩
  · cases split
    exact ⟨3, rfl⟩
  · cases split
  · cases split
  · cases before <;> cases split

theorem readable_wholeList : Readable wholeList := by
  rw [Readable, tokenize_wholeList]
  simp [fragmentOf?]

/-- A strict reading accepts the list that is cut off, and makes no rows of it. -/
theorem parse_cutList : (parse ⟨[], true, none⟩ cutList).outcome = .ok ⟨[], []⟩ :=
  ofTokens_eq_ok_iff.2 ⟨fun _ => by decide +kernel, by decide +kernel, by decide +kernel⟩

theorem not_listsClosed_cutList : ¬ListsClosed (tokenize cutList) := by
  intro closed
  have closes : ClosesFirst [] := closed [] "L" 1 [] tokenize_cutList
  exact not_closesFirst (by simp) closes

/-- The whole list is cut off nowhere, and the other one in the list if it has a body. -/
theorem listsClosed_iff_wholeList :
    Readable wholeList ∧ ¬ListWithoutBody wholeList [] ∧
      ¬Reaches wholeList (tokenize wholeList) ⟨true, []⟩ [] ∧
      ((∀ before, ¬ListWithoutBody cutList before) →
        Reaches cutList (tokenize cutList) ⟨true, []⟩ []) := by
  have whole := ((listsClosed_iff wholeList).1 readable_wholeList).1 listsClosed_wholeList
  have cut := ((listsClosed_iff cutList).2 _ _ _ parse_cutList).2
  refine ⟨readable_wholeList, whole.1 [], whole.2, fun bodies => ?_⟩
  by_contra complete
  exact not_listsClosed_cutList (cut.2 ⟨bodies, complete⟩)

/-- A list that is cut off behind its opening brace has no end and no malformed token, and a strict reading
accepts it. -/
theorem not_listsClosed_of_readable :
    Readable cutList ∧ ¬ListsClosed (tokenize cutList) ∧
      (parse ⟨[], true, none⟩ cutList).outcome = .ok ⟨[], []⟩ := by
  refine ⟨?_, not_listsClosed_cutList, parse_cutList⟩
  rw [Readable, tokenize_cutList]
  simp [fragmentOf?]

end Codebook.ImportRow
