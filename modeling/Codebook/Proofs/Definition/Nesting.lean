import Codebook.Proofs.Definition.Steps

/-!
# How tokens are nested

The tokens of a text are lists and entries one after the other, and an entry that is a header has a block
with entries of its own (`Derives`). The reader knows at each point of the text which list and which
blocks its tokens have left open (`isOpen_of_reaches`): it opens a list where nothing is open and closes
one where the list alone is open, and when the lexemes are used up it reports the blocks that are open
(`nested_tokenize`).
-/

namespace Codebook.Definition

open Codebook.Text

/-! ## The grammar of tokens -/

/-- The parts that tokens are made of. -/
inductive Part where
  /-- The tokens of a text. -/
  | stream
  /-- A list from its opening on. -/
  | list
  /-- What stands in a list or in a block. -/
  | body
  /-- An item, or a header and its block. -/
  | entry

/-- Whether tokens are such a part. Where a text is cut off, the last list may be without an end and a
block may end in the report that it has none. -/
inductive Derives (cut : Bool) : Part → List Token → Prop
  | item (code label : String) (line : Nat) (properties : Properties) :
    Derives cut .entry [.item code label line properties]
  | block {body : List Token} (code label : String) (line : Nat) (properties : Properties)
      (braceLine : Nat) (closing : BlockEnd) (endLine : Nat) :
    Derives cut .body body →
    Derives cut .entry (.headerOpen code label line properties :: .blockOpen braceLine
      :: (body ++ [.blockClose closing endLine]))
  | openBlock {body : List Token} (code label : String) (line : Nat) (properties : Properties)
      (braceLine : Nat) :
    cut = true → Derives cut .body body →
    Derives cut .entry (.headerOpen code label line properties :: .blockOpen braceLine
      :: (body ++ [Context.unterminated ⟨code, line⟩]))
  | emptyBody : Derives cut .body []
  | bodyFragment {body : List Token} (fragment : String) (line : Nat) :
    Derives cut .body body → Derives cut .body (.malformed fragment line :: body)
  | bodyEntry {entry body : List Token} :
    Derives cut .entry entry → Derives cut .body body → Derives cut .body (entry ++ body)
  | listName (name : String) (line : Nat) : Derives cut .list [.listOpen name line]
  | list {body : List Token} (name : String) (line endLine : Nat) :
    Derives cut .body body → Derives cut .list (.listOpen name line :: (body ++ [.listClose endLine]))
  | openList {body : List Token} (name : String) (line : Nat) :
    cut = true → Derives cut .body body → Derives cut .list (.listOpen name line :: body)
  | emptyStream : Derives cut .stream []
  | streamFragment {stream : List Token} (fragment : String) (line : Nat) :
    Derives cut .stream stream → Derives cut .stream (.malformed fragment line :: stream)
  | streamEntry {entry stream : List Token} :
    Derives cut .entry entry → Derives cut .stream stream → Derives cut .stream (entry ++ stream)
  | streamList {list stream : List Token} :
    Derives cut .list list → Derives cut .stream stream → Derives cut .stream (list ++ stream)

namespace Derives

variable {cut : Bool} {part : Part} {tokens more : List Token}

theorem fragment (text : String) (line : Nat) : Derives cut .body [.malformed text line] :=
  .bodyFragment text line .emptyBody

theorem body_of_entry (entry : Derives cut .entry tokens) : Derives cut .body tokens :=
  List.append_nil tokens ▸ .bodyEntry entry .emptyBody

theorem stream_of_list (list : Derives cut .list tokens) : Derives cut .stream tokens :=
  List.append_nil tokens ▸ .streamList list .emptyStream

theorem body_append (body : Derives cut .body tokens) (others : Derives cut .body more) :
    Derives cut .body (tokens ++ more) := by
  generalize same : Part.body = part at body
  induction body with
  | emptyBody => exact others
  | bodyFragment text line _ ih => exact .bodyFragment text line (ih same)
  | bodyEntry entry _ _ ih =>
    rw [List.append_assoc]
    exact .bodyEntry entry (ih same)
  | _ => cases same

theorem stream_append (stream : Derives cut .stream tokens) (others : Derives cut .stream more) :
    Derives cut .stream (tokens ++ more) := by
  generalize same : Part.stream = part at stream
  induction stream with
  | emptyStream => exact others
  | streamFragment text line _ ih => exact .streamFragment text line (ih same)
  | streamEntry entry _ _ ih =>
    rw [List.append_assoc]
    exact .streamEntry entry (ih same)
  | streamList list _ _ ih =>
    rw [List.append_assoc]
    exact .streamList list (ih same)
  | _ => cases same

theorem stream_of_body (body : Derives cut .body tokens) : Derives cut .stream tokens := by
  generalize same : Part.body = part at body
  induction body with
  | emptyBody => exact .emptyStream
  | bodyFragment text line _ ih => exact .streamFragment text line (ih same)
  | bodyEntry entry _ _ ih => exact .streamEntry entry (ih same)
  | _ => cases same

/-- What is complete is a part of a text that may be cut off. -/
theorem cutOff (complete : Derives false part tokens) : Derives true part tokens := by
  induction complete with
  | item code label line properties => exact .item code label line properties
  | block code label line properties braceLine closing endLine _ ih =>
    exact .block code label line properties braceLine closing endLine ih
  | openBlock _ _ _ _ _ never => cases never
  | emptyBody => exact .emptyBody
  | bodyFragment text line _ ih => exact .bodyFragment text line ih
  | bodyEntry _ _ entry body => exact .bodyEntry entry body
  | listName name line => exact .listName name line
  | list name line endLine _ ih => exact .list name line endLine ih
  | openList _ _ never => cases never
  | emptyStream => exact .emptyStream
  | streamFragment text line _ ih => exact .streamFragment text line ih
  | streamEntry _ _ entry stream => exact .streamEntry entry stream
  | streamList _ _ list stream => exact .streamList list stream

end Derives

/-! ## What tokens leave open -/

/-- Whether a list and blocks, the innermost first, are what tokens leave open: each has its opening and
after that only what stands in it. -/
inductive IsOpen (cut : Bool) : Context → List Token → Prop
  | outside {tokens : List Token} : Derives cut .stream tokens → IsOpen cut .outside tokens
  | inList {before body : List Token} (name : String) (line : Nat) :
    Derives cut .stream before → Derives cut .body body →
    IsOpen cut ⟨true, []⟩ (before ++ .listOpen name line :: body)
  | inBlock {inList : Bool} {outer : List OpenBlock} {before body : List Token} (code label : String)
      (line : Nat) (properties : Properties) (braceLine : Nat) :
    IsOpen cut ⟨inList, outer⟩ before → Derives cut .body body →
    IsOpen cut ⟨inList, ⟨code, line⟩ :: outer⟩
      (before ++ .headerOpen code label line properties :: .blockOpen braceLine :: body)

namespace IsOpen

variable {cut : Bool} {context : Context} {tokens more : List Token}

theorem stream (closed : IsOpen cut .outside tokens) : Derives cut .stream tokens := by
  cases closed with
  | outside stream => exact stream

theorem append_body (before : IsOpen cut context tokens) (body : Derives cut .body more) :
    IsOpen cut context (tokens ++ more) := by
  cases before with
  | outside stream => exact .outside (stream.stream_append body.stream_of_body)
  | inList name line stream inner =>
    rw [List.append_assoc, List.cons_append]
    exact .inList name line stream (inner.body_append body)
  | inBlock code label line properties braceLine outer inner =>
    rw [List.append_assoc, List.cons_append, List.cons_append]
    exact .inBlock code label line properties braceLine outer (inner.body_append body)

theorem cutOff (complete : IsOpen false context tokens) : IsOpen true context tokens := by
  induction complete with
  | outside stream => exact .outside stream.cutOff
  | inList name line stream body => exact .inList name line stream.cutOff body.cutOff
  | inBlock code label line properties braceLine _ body ih =>
    exact .inBlock code label line properties braceLine ih body.cutOff

/-- The end of the innermost block leaves what was open around it. -/
theorem closeBlock {block : OpenBlock} {outer : List OpenBlock} (inside : context.blocks = block :: outer)
    (before : IsOpen cut context tokens) (closing : BlockEnd) (endLine : Nat) :
    IsOpen cut { context with blocks := outer } (tokens ++ [.blockClose closing endLine]) := by
  cases before with
  | outside _ => cases inside
  | inList _ _ _ _ => cases inside
  | inBlock code label line properties braceLine around body =>
    cases inside
    rw [List.append_assoc]
    exact around.append_body
      (.body_of_entry (.block code label line properties braceLine closing endLine body))

/-- The report of the innermost block leaves what was open around it. -/
theorem reportBlock {block : OpenBlock} {outer : List OpenBlock} (inside : context.blocks = block :: outer)
    (before : IsOpen true context tokens) :
    IsOpen true { context with blocks := outer } (tokens ++ [Context.unterminated block]) := by
  cases before with
  | outside _ => cases inside
  | inList _ _ _ _ => cases inside
  | inBlock code label line properties braceLine around body =>
    cases inside
    rw [List.append_assoc]
    exact around.append_body (.body_of_entry (.openBlock code label line properties braceLine rfl body))

/-- With the reports of the blocks that are open, the tokens of a text that is cut off are complete. -/
theorem stream_atEnd (before : IsOpen true context tokens) :
    Derives true .stream (tokens ++ context.atEnd) := by
  rcases context with ⟨inList, blocks⟩
  induction blocks generalizing tokens with
  | nil =>
    rw [Context.atEnd, List.map_nil, List.append_nil]
    cases before with
    | outside stream => exact stream
    | inList name line stream body =>
      exact stream.stream_append (.stream_of_list (.openList name line rfl body))
  | cons block outer ih =>
    have reported := ih (reportBlock rfl before)
    rw [List.append_assoc] at reported
    exact reported

end IsOpen

/-! ## Steps -/

section Steps

variable {cut : Bool} {context : Context} {tokens : List Token} (first : Lexeme) (rest : List Lexeme)

theorem isOpen_skipFragment (before : IsOpen cut context tokens) :
    IsOpen cut (skipFragment context first rest).context
      (tokens ++ (skipFragment context first rest).tokens) :=
  before.append_body (.fragment _ _)

theorem isOpen_readEntry (before : IsOpen cut context tokens) :
    IsOpen cut (readEntry context first rest).context (tokens ++ (readEntry context first rest).tokens) := by
  fun_cases readEntry context first rest with
  | case1 => exact isOpen_skipFragment first rest before
  | case2 label properties name line left =>
    exact .inBlock name label first.line properties line before .emptyBody
  | case3 label properties left _ name =>
    exact before.append_body (.body_of_entry (.item name label first.line properties))

theorem isOpen_closeBlock {block : OpenBlock} {outer : List OpenBlock}
    (inside : context.blocks = block :: outer) (before : IsOpen cut context tokens) (line : Nat) :
    IsOpen cut (closeBlock { context with blocks := outer } line rest).context
      (tokens ++ (closeBlock { context with blocks := outer } line rest).tokens) := by
  fun_cases closeBlock { context with blocks := outer } line rest with
  | case1 => exact before.closeBlock inside .fix line
  | case2 => exact before.closeBlock inside .group line
  | case3 => exact before.closeBlock inside .group line

theorem isOpen_closeList (before : IsOpen cut ⟨true, []⟩ tokens) (line : Nat) :
    IsOpen cut .outside (tokens ++ [.listClose line]) := by
  cases before with
  | inList name openLine stream body =>
    rw [List.append_assoc, List.cons_append]
    exact .outside (stream.stream_append (.stream_of_list (.list name openLine line body)))

theorem isOpen_openList (before : IsOpen cut .outside tokens) (name : String) :
    IsOpen cut (openList name first rest).context (tokens ++ (openList name first rest).tokens) := by
  have stream := before.stream
  rcases openList_cases name first rest with ⟨left, body⟩ | ⟨left, bare⟩ | skipped
  · rw [body]
    exact .inList name first.line stream .emptyBody
  · rw [bare]
    exact .outside (stream.stream_append (.stream_of_list (.listName name first.line)))
  · rw [skipped]
    exact isOpen_skipFragment first rest before

/-- A step knows what the tokens in front of it and its own leave open. -/
theorem isOpen_step (before : IsOpen cut context tokens) :
    IsOpen cut (step context first rest).context (tokens ++ (step context first rest).tokens) := by
  have action := action_step context first
  generalize step context first = act at action ⊢
  cases action with
  | passSeparator _ =>
    rw [List.append_nil]
    exact before
  | closeBlock inside => exact isOpen_closeBlock rest inside before first.line
  | closeList only =>
    rw [only] at before
    exact isOpen_closeList before first.line
  | readEntry _ => exact isOpen_readEntry first rest before
  | openList name outside _ =>
    rw [outside] at before
    exact isOpen_openList first rest before name
  | skipFragment => exact isOpen_skipFragment first rest before

end Steps

/-! ## Where lists open and close -/

/-- What is open where a token is read that opens or closes a list: nothing in front of its opening, and
the list alone in front of its end. -/
def Token.readIn? : Token → Option Context
  | .listOpen _ _ => some .outside
  | .listClose _ => some ⟨true, []⟩
  | _ => none

section Frame

variable {context : Context} {first : Lexeme} {rest : List Lexeme}

theorem readIn?_skipFragment : ∀ token ∈ (skipFragment context first rest).tokens, token.readIn? = none := by
  intro token made
  rw [List.mem_singleton.1 made]
  rfl

theorem readIn?_readEntry : ∀ token ∈ (readEntry context first rest).tokens, token.readIn? = none := by
  fun_cases readEntry context first rest with
  | case1 => exact readIn?_skipFragment
  | case2 => simp [Token.readIn?]
  | case3 => simp [Token.readIn?]

theorem readIn?_closeBlock {line : Nat} :
    ∀ token ∈ (closeBlock context line rest).tokens, token.readIn? = none := by
  fun_cases closeBlock context line rest <;> simp [Token.readIn?]

theorem eq_of_singleton_eq {token own : Token} {earlier later : List Token}
    (made : [own] = earlier ++ token :: later) : earlier = [] ∧ token = own := by
  rcases earlier with _ | ⟨other, earlier⟩
  · exact ⟨rfl, (List.cons.inj made).1.symm⟩
  · cases earlier <;> cases (List.cons.inj made).2

/-- A step that opens or closes a list makes no token in front of that, and only the right things are
open. -/
theorem step_readIn? {token : Token} {place : Context} {earlier later : List Token}
    (frame : token.readIn? = some place)
    (made : (step context first rest).tokens = earlier ++ token :: later) :
    earlier = [] ∧ context = place := by
  have member : token ∈ (step context first rest).tokens := by
    rw [made]
    exact List.mem_append_right _ List.mem_cons_self
  have action := action_step context first
  generalize step context first = act at action made member
  cases action with
  | passSeparator _ => cases member
  | closeBlock _ => cases frame.symm.trans (readIn?_closeBlock token member)
  | closeList only =>
    obtain ⟨none, rfl⟩ := eq_of_singleton_eq made
    cases frame
    exact ⟨none, only⟩
  | readEntry _ => cases frame.symm.trans (readIn?_readEntry token member)
  | openList name outside _ =>
    rcases openList_cases name first rest with ⟨left, opens⟩ | ⟨left, opens⟩ | skipped
    · rw [opens] at made
      obtain ⟨none, rfl⟩ := eq_of_singleton_eq made
      cases frame
      exact ⟨none, outside⟩
    · rw [opens] at made
      obtain ⟨none, rfl⟩ := eq_of_singleton_eq made
      cases frame
      exact ⟨none, outside⟩
    · rw [skipped] at member
      cases frame.symm.trans (readIn?_skipFragment token member)
  | skipFragment => cases frame.symm.trans (readIn?_skipFragment token member)

end Frame

/-! ## Runs -/

/-- Whether the reader of a text comes to a point: the tokens that it has made by then, what is open, and
the lexemes left. -/
inductive Reaches (text : String) : List Token → Context → List Lexeme → Prop
  | start : Reaches text [] .outside (lex text)
  | step {tokens : List Token} {context : Context} {first : Lexeme} {rest : List Lexeme} :
    Reaches text tokens context (first :: rest) →
    Reaches text (tokens ++ (step context first rest).tokens) (step context first rest).context
      (step context first rest).rest

section Runs

variable {text : String} {tokens : List Token} {context : Context} {lexemes : List Lexeme}

/-- What the reader takes to be open is what its tokens leave open. -/
theorem isOpen_of_reaches (reached : Reaches text tokens context lexemes) : IsOpen false context tokens := by
  induction reached with
  | start => exact .outside .emptyStream
  | step _ ih => exact isOpen_step _ _ ih

/-- Wherever a list is opened or closed, the reader was at the token with the right things open. -/
theorem reaches_readIn? {token : Token} {place : Context} {before after : List Token}
    (frame : token.readIn? = some place) (reached : Reaches text tokens context lexemes)
    (split : tokens = before ++ token :: after) : ∃ rest, Reaches text before place rest := by
  induction reached generalizing after with
  | start => cases before <;> cases split
  | step reached ih =>
    rename_i tokens context first rest
    -- the token is one of the last step, or the step made its tokens behind it
    rcases List.append_eq_append_iff.1 split with ⟨earlier, rfl, made⟩ | ⟨own, rfl, made⟩
    · obtain ⟨rfl, rfl⟩ := step_readIn? frame made
      rw [List.append_nil]
      exact ⟨_, reached⟩
    · rcases own with _ | ⟨t, own⟩
      · have front : (step context first rest).tokens = [] ++ token :: after := made.symm
        obtain ⟨_, rfl⟩ := step_readIn? frame front
        rw [List.append_nil] at reached
        exact ⟨_, reached⟩
      · obtain rfl := (List.cons.inj made).1
        exact ih rfl

/-- From each point on, the reader comes to the end of the lexemes and then reports what is open. -/
theorem exists_reaches_end (text : String) (context : Context) (lexemes : List Lexeme) :
    ∀ tokens, Reaches text tokens context lexemes →
      ∃ last front, tokensFrom context lexemes = front ++ last.atEnd ∧
        Reaches text (tokens ++ front) last [] := by
  fun_induction tokensFrom context lexemes with
  | case1 context =>
    intro tokens reached
    rw [← List.append_nil tokens] at reached
    exact ⟨context, [], rfl, reached⟩
  | case2 context first rest made ih =>
    intro tokens reached
    obtain ⟨last, front, tail, reachesEnd⟩ := ih _ reached.step
    rw [List.append_assoc] at reachesEnd
    exact ⟨last, _, by rw [tail, List.append_assoc], reachesEnd⟩

theorem readIn?_atEnd (last : Context) : ∀ token ∈ last.atEnd, token.readIn? = none := by
  intro token report
  obtain ⟨block, _, rfl⟩ := List.mem_map.1 report
  rfl

/-- The tokens of a text that open or close a list are read with the right things open. -/
theorem reaches_of_tokenize {token : Token} {place : Context} {before after : List Token}
    (frame : token.readIn? = some place) (split : tokenize text = before ++ token :: after) :
    ∃ rest, Reaches text before place rest := by
  obtain ⟨last, front, tail, reached⟩ := exists_reaches_end text .outside (lex text) [] .start
  rw [List.nil_append] at reached
  have report : token ∉ last.atEnd := fun among => by
    cases frame.symm.trans (readIn?_atEnd last token among)
  rw [tokenize, tail] at split
  rcases List.append_eq_append_iff.1 split with ⟨earlier, rfl, reports⟩ | ⟨own, rfl, reports⟩
  · rw [reports] at report
    exact (report (List.mem_append_right _ List.mem_cons_self)).elim
  · rcases own with _ | ⟨t, own⟩
    · rw [List.nil_append] at reports
      rw [← reports] at report
      exact (report List.mem_cons_self).elim
    · obtain rfl := (List.cons.inj reports).1
      exact reaches_readIn? frame reached rfl

/-- The tokens of a text are well nested. A list is opened where nothing is open and closed where the list
alone is open; and the blocks without an end, which are reported when all lexemes are used up, the innermost
first, are those that the tokens of the lexemes leave open. -/
theorem nested_tokenize (text : String) :
    Derives true .stream (tokenize text) ∧
    (∀ before name line after, tokenize text = before ++ .listOpen name line :: after →
      Derives false .stream before ∧ ∃ rest, Reaches text before .outside rest) ∧
    (∀ before line after, tokenize text = before ++ .listClose line :: after →
      IsOpen false ⟨true, []⟩ before ∧ ∃ rest, Reaches text before ⟨true, []⟩ rest) ∧
    ∃ context front, tokenize text = front ++ context.blocks.map Context.unterminated ∧
      IsOpen false context front ∧ Reaches text front context [] := by
  obtain ⟨last, front, tail, reached⟩ := exists_reaches_end text .outside (lex text) [] .start
  rw [List.nil_append] at reached
  have leftOpen := isOpen_of_reaches reached
  refine ⟨?_, ?_, ?_, last, front, tail, leftOpen, reached⟩
  · rw [tokenize, tail]
    exact leftOpen.cutOff.stream_atEnd
  · intro before name line after split
    have frame : (Token.listOpen name line).readIn? = some .outside := rfl
    obtain ⟨rest, opens⟩ := reaches_of_tokenize frame split
    exact ⟨(isOpen_of_reaches opens).stream, rest, opens⟩
  · intro before line after split
    have frame : (Token.listClose line).readIn? = some ⟨true, []⟩ := rfl
    obtain ⟨rest, closes⟩ := reaches_of_tokenize frame split
    exact ⟨isOpen_of_reaches closes, rest, closes⟩

-- A list that is cut off in the inner one of two blocks.
example : tokenize "A \"\" define \x7b\n_1 \"a\" \x7b\n_2 \"b\" \x7b" =
    [.listOpen "A" 1, .headerOpen "1" "a" 2 [], .blockOpen 2, .headerOpen "2" "b" 3 [], .blockOpen 3,
      .malformed "unterminated block _2" 3, .malformed "unterminated block _1" 2] := by
  decide +kernel

end Runs

end Codebook.Definition
