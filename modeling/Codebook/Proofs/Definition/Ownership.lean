import Codebook.Proofs.Definition.ReadBack
import Codebook.Proofs.Keyed

/-!
# Lexemes and the tokens that own them

No lexeme is lost in reading, and none is used twice. Each token owns a run of lexemes (`Owns`): a list
its opening, an entry its code, its label and its bracket clause, a fragment all that it quotes; only the
report of a block without an end owns nothing. The runs stand in the order of their tokens, and between
them there are separators only (`Accounts`).

A step of the reader takes the runs of the tokens that it makes (`accountsFor_step`), although it may read
far into a bracket clause before the clause fails and the entry is skipped from its code on. So the tokens
of a text account for its lexemes (`accounts_tokenize`).
-/

namespace Codebook.Definition

open Codebook.Text

/-! ## Runs of lexemes -/

/-- The lexemes of a bracket clause after its opening bracket, with the keys and the values in it. -/
inductive IsClause : List Lexeme → List (String × String) → Prop
  | close (line : Nat) : IsClause [⟨.mark .closeBracket, line⟩] []
  | comma {clause : List Lexeme} {pairs : List (String × String)} (line : Nat) :
    IsClause clause pairs → IsClause (⟨.mark .comma, line⟩ :: clause) pairs
  | pair {clause : List Lexeme} {pairs : List (String × String)} (key written : String)
      (line equalsLine valueLine : Nat) :
    IsClause clause pairs →
    IsClause
      (⟨.word key, line⟩ :: ⟨.mark .equals, equalsLine⟩ :: ⟨.string written, valueLine⟩ :: clause)
      ((key, propertyValue (unquote written)) :: pairs)

/-- The lexemes of an entry after its code, in front of `rest`: a string with the label, and a bracket
clause with the properties if there is a bracket. -/
inductive IsBody : String → Properties → List Lexeme → List Lexeme → Prop
  | label {rest : List Lexeme} (written : String) (line : Nat) :
    (∀ l ∈ rest.head?, l.form ≠ .mark .openBracket) →
    IsBody (unquote written) [] [⟨.string written, line⟩] rest
  | clause {rest clause : List Lexeme} {pairs : List (String × String)} {properties : Properties}
      (written : String) (line bracketLine : Nat) :
    IsClause clause pairs → properties.Collects pairs →
    IsBody (unquote written) properties
      (⟨.string written, line⟩ :: ⟨.mark .openBracket, bracketLine⟩ :: clause) rest

/-- The run of lexemes that a token owns, in front of `rest`. -/
inductive Owns : Token → List Lexeme → List Lexeme → Prop
  | listName {rest : List Lexeme} {keyword : Lexeme} (name written : String) (line stringLine : Nat) :
    keyword.isKeyword "define" = true → (∀ l ∈ rest.head?, l.form ≠ .mark .openBrace) →
    Owns (.listOpen name line) [⟨.word name, line⟩, ⟨.string written, stringLine⟩, keyword] rest
  | listBody {rest : List Lexeme} {keyword : Lexeme} (name written : String)
      (line stringLine braceLine : Nat) :
    keyword.isKeyword "define" = true →
    Owns (.listOpen name line)
      [⟨.word name, line⟩, ⟨.string written, stringLine⟩, keyword, ⟨.mark .openBrace, braceLine⟩] rest
  | headerOpen {rest body : List Lexeme} {label : String} {properties : Properties} (code : String)
      (line braceLine : Nat) :
    IsBody label properties body (⟨.mark .openBrace, braceLine⟩ :: rest) →
    Owns (.headerOpen code label line properties) (⟨.word ("_" ++ code), line⟩ :: body)
      (⟨.mark .openBrace, braceLine⟩ :: rest)
  | blockOpen {rest : List Lexeme} (line : Nat) : Owns (.blockOpen line) [⟨.mark .openBrace, line⟩] rest
  | item {rest body : List Lexeme} {label : String} {properties : Properties} (code : String)
      (line : Nat) :
    IsBody label properties body rest → (∀ l ∈ rest.head?, l.form ≠ .mark .openBrace) →
    Owns (.item code label line properties) (⟨.word ("_" ++ code), line⟩ :: body) rest
  | groupEnd {rest : List Lexeme} (line : Nat) : (∀ l ∈ rest.head?, l.isKeyword "fix" = false) →
    Owns (.blockClose .group line) [⟨.mark .closeBrace, line⟩] rest
  | fixEnd {rest : List Lexeme} {keyword : Lexeme} (line : Nat) : keyword.isKeyword "fix" = true →
    Owns (.blockClose .fix line) [⟨.mark .closeBrace, line⟩, keyword] rest
  | listEnd {rest : List Lexeme} (line : Nat) : (∀ l ∈ rest.head?, l.form ≠ .mark .semicolon) →
    Owns (.listClose line) [⟨.mark .closeBrace, line⟩] rest
  | markedListEnd {rest : List Lexeme} (line markLine : Nat) :
    Owns (.listClose line) [⟨.mark .closeBrace, line⟩, ⟨.mark .semicolon, markLine⟩] rest
  | fragment {rest : List Lexeme} (first : Lexeme) (others : List Lexeme) :
    Owns (.malformed (" ".intercalate ((first :: others).map Lexeme.text)) first.line)
      (first :: others) rest
  /-- The report of a block without an end comes when all lexemes are used up. -/
  | unterminated (block : OpenBlock) : Owns (Context.unterminated block) [] []

/-- Whether a lexeme may stand between the runs of two tokens. -/
def Lexeme.IsSeparator (l : Lexeme) : Prop :=
  l.form = .mark .comma ∨ l.form = .mark .semicolon ∨ l.form = .mark .closeBrace

instance (l : Lexeme) : Decidable l.IsSeparator :=
  inferInstanceAs (Decidable (_ ∨ _ ∨ _))

/-- Whether lexemes are the runs of tokens, in the order of the tokens, and separators. -/
inductive Accounts : List Lexeme → List Token → Prop
  | nil : Accounts [] []
  | separator {l : Lexeme} {rest : List Lexeme} {tokens : List Token} :
    l.IsSeparator → Accounts rest tokens → Accounts (l :: rest) tokens
  | token {token : Token} {own rest : List Lexeme} {tokens : List Token} :
    Owns token own rest → Accounts rest tokens → Accounts (own ++ rest) (token :: tokens)

/-- Whether what a step takes from the front of lexemes are the runs of the tokens that it makes. -/
def Step.AccountsFor (made : Step) (lexemes : List Lexeme) : Prop :=
  ∀ tokens, Accounts made.rest tokens → Accounts lexemes (made.tokens ++ tokens)

/-! ## Parts of a step -/

/-- A clause that is read is one, and its properties are what its pairs come to. -/
theorem isClause_of_readProperties {read found : Properties} {lexemes rest : List Lexeme}
    (ok : readProperties read lexemes = some (found, rest)) :
    ∃ clause pairs, lexemes = clause ++ rest ∧ IsClause clause pairs ∧ found = read.putAll pairs := by
  fun_induction readProperties read lexemes with
  | case1 read line after =>
    cases ok
    exact ⟨_, [], rfl, .close line, rfl⟩
  | case2 read line after ih =>
    obtain ⟨clause, pairs, rfl, isClause, rfl⟩ := ih ok
    exact ⟨_, pairs, rfl, .comma line isClause, rfl⟩
  | case3 read key line equalsLine written valueLine after ih =>
    obtain ⟨clause, pairs, rfl, isClause, rfl⟩ := ih ok
    exact ⟨_, _, rfl, .pair key written line equalsLine valueLine isClause, rfl⟩
  | case4 => cases ok

theorem isBody_of_entryBody? {lexemes rest : List Lexeme} {label : String} {properties : Properties}
    (ok : entryBody? lexemes = some (label, properties, rest)) :
    ∃ body, lexemes = body ++ rest ∧ IsBody label properties body rest := by
  fun_cases entryBody? lexemes with
  | case1 written line bracketLine after =>
    obtain ⟨⟨found, left⟩, read, same⟩ := Option.map_eq_some_iff.1 ok
    cases same
    obtain ⟨clause, pairs, rfl, isClause, rfl⟩ := isClause_of_readProperties read
    exact ⟨_, rfl, .clause written line bracketLine isClause (Keyed.collects_ofList pairs)⟩
  | case2 written line after noBracket =>
    have noBracketAhead := form_ne_of_noMark noBracket
    rw [entryBody?_string written noBracketAhead] at ok
    cases ok
    exact ⟨_, rfl, .label written line noBracketAhead⟩
  | case3 lexemes noClause noLabel =>
    rw [entryBody?] at ok
    · cases ok
    · exact noClause
    · exact noLabel

theorem opening_of_afterListName? {lexemes rest : List Lexeme}
    (ok : afterListName? lexemes = some rest) :
    ∃ written line keyword, lexemes = ⟨.string written, line⟩ :: keyword :: rest ∧
      keyword.isKeyword "define" = true := by
  fun_cases afterListName? lexemes with
  | case1 written line keyword after define =>
    rw [afterListName?, if_pos define] at ok
    cases ok
    exact ⟨written, line, keyword, rfl, define⟩
  | case2 written line keyword after other =>
    rw [afterListName?, if_neg other] at ok
    cases ok
  | case3 lexemes short =>
    rw [afterListName?] at ok
    · cases ok
    · exact short

/-- A fragment ends at the end of the text, at a comma, which is dropped, or at a brace. -/
theorem eq_of_fragmentTail {depth : Depth} {lexemes taken left : List Lexeme}
    (split : fragmentTail depth lexemes = (taken, left)) :
    lexemes = taken ++ left ∨ ∃ line, lexemes = taken ++ ⟨.mark .comma, line⟩ :: left := by
  fun_induction fragmentTail depth lexemes generalizing taken left with
  | case1 depth =>
    cases split
    exact .inl rfl
  | case2 depth l rest comma =>
    rcases l with ⟨form, line⟩
    rw [Bool.and_eq_true, beq_iff_eq] at comma
    obtain rfl : form = .mark .comma := comma.1
    cases split
    exact .inr ⟨line, rfl⟩
  | case3 depth l rest _ brace =>
    cases split
    exact .inl rfl
  | case4 depth l rest _ _ inner left' below ih =>
    cases split
    rcases ih below with same | ⟨line, same⟩
    · exact .inl (by rw [same, List.cons_append])
    · exact .inr ⟨line, by rw [same, List.cons_append]⟩

/-- A code is an underscore with a name after it. -/
theorem Lexeme.exists_name_of_isCode {l : Lexeme} (code : l.isCode = true) :
    ∃ name, l = ⟨.word ("_" ++ name), l.line⟩ := by
  rcases l with ⟨form, line⟩
  cases form with
  | word text =>
    simp only [Lexeme.isCode] at code
    split at code
    · next c chars written =>
      have named : text = "_" ++ String.ofList (c :: chars) := by
        refine String.toList_injective ?_
        rw [written, String.toList_append]
        exact congrArg ('_' :: ·) String.toList_ofList.symm
      exact ⟨String.ofList (c :: chars), by rw [named]⟩
    · cases code
  | string written => cases code
  | mark mark => cases code
  | strayQuote => cases code

theorem accounts_dropMark_comma {lexemes : List Lexeme} {tokens : List Token}
    (below : Accounts (dropMark .comma lexemes) tokens) : Accounts lexemes tokens := by
  fun_cases dropMark .comma lexemes with
  | case1 l rest comma =>
    rw [dropMark, if_pos comma] at below
    exact .separator (.inl (beq_iff_eq.1 comma)) below
  | case2 l rest other =>
    rw [dropMark, if_neg other] at below
    exact below
  | case3 => exact below

section Steps

variable (context : Context) (first : Lexeme) (rest : List Lexeme)

theorem accountsFor_skipFragment : (skipFragment context first rest).AccountsFor (first :: rest) := by
  rcases split : fragmentTail (Depth.after ⟨0, 0⟩ first) rest with ⟨taken, left⟩
  rw [skipFragment, split]
  intro tokens below
  rcases eq_of_fragmentTail split with rfl | ⟨line, rfl⟩
  · exact .token (.fragment first taken) below
  · exact .token (.fragment first taken) (.separator (.inl rfl) below)

theorem accountsFor_readEntry (code : first.isCode = true) :
    (readEntry context first rest).AccountsFor (first :: rest) := by
  obtain ⟨name, written⟩ := Lexeme.exists_name_of_isCode code
  rw [written]
  generalize first.line = line
  cases body : entryBody? rest with
  | none =>
    rw [readEntry_skipped body]
    exact accountsFor_skipFragment context _ rest
  | some entry =>
    obtain ⟨label, properties, left⟩ := entry
    obtain ⟨own, rfl, isBody⟩ := isBody_of_entryBody? body
    rcases begins_or_form_ne .openBrace left with ⟨braceLine, more, rfl⟩ | noBrace
    · rw [readEntry_header body]
      intro tokens below
      exact .token (.headerOpen name line braceLine isBody) (.token (.blockOpen braceLine) below)
    · rw [readEntry_item body noBrace]
      intro tokens below
      exact .token (.item name line isBody noBrace) (accounts_dropMark_comma below)

theorem accountsFor_closeBlock (line : Nat) :
    (closeBlock context line rest).AccountsFor (⟨.mark .closeBrace, line⟩ :: rest) := by
  fun_cases closeBlock context line rest with
  | case1 l left keyword =>
    intro tokens below
    exact .token (.fixEnd line keyword) (accounts_dropMark_comma below)
  | case2 l left other =>
    intro tokens below
    refine .token (.groupEnd line ?_) (accounts_dropMark_comma below)
    rintro keyword ⟨⟩
    simpa using other
  | case3 =>
    intro tokens below
    exact .token (.groupEnd line (by rintro l ⟨⟩)) below

theorem accountsFor_closeList (line : Nat) :
    Step.AccountsFor ⟨[.listClose line], context, dropMark .semicolon rest⟩
      (⟨.mark .closeBrace, line⟩ :: rest) := by
  intro tokens below
  fun_cases dropMark .semicolon rest with
  | case1 l left semicolon =>
    rw [dropMark, if_pos semicolon] at below
    rcases l with ⟨form, markLine⟩
    obtain rfl : form = .mark .semicolon := beq_iff_eq.1 semicolon
    exact .token (.markedListEnd line markLine) below
  | case2 l left other =>
    rw [dropMark, if_neg other] at below
    refine .token (.listEnd line ?_) below
    rintro l ⟨⟩
    simpa using other
  | case3 => exact .token (.listEnd line (by rintro l ⟨⟩)) below

theorem accountsFor_separator (separator : first.IsSeparator) :
    Step.AccountsFor ⟨[], context, rest⟩ (first :: rest) :=
  fun _ below => .separator separator below

theorem accountsFor_stepInside : (stepInside context first rest).AccountsFor (first :: rest) := by
  rcases first with ⟨form, line⟩
  fun_cases stepInside context ⟨form, line⟩ rest with
  | case1 brace block outer =>
    obtain rfl : form = .mark .closeBrace := brace
    exact accountsFor_closeBlock _ rest line
  | case2 brace =>
    obtain rfl : form = .mark .closeBrace := brace
    exact accountsFor_closeList _ rest line
  | case3 comma => exact accountsFor_separator context _ rest (.inl comma)
  | case4 semicolon => exact accountsFor_separator context _ rest (.inr (.inl semicolon))
  | case5 code => exact accountsFor_readEntry context _ rest code
  | case6 => exact accountsFor_skipFragment context _ rest

theorem accountsFor_stepOutside : (stepOutside first rest).AccountsFor (first :: rest) := by
  rcases first with ⟨form, line⟩
  fun_cases stepOutside ⟨form, line⟩ rest with
  | case1 brace => exact accountsFor_separator _ _ rest (.inr (.inr brace))
  | case2 comma => exact accountsFor_separator _ _ rest (.inl comma)
  | case3 semicolon => exact accountsFor_separator _ _ rest (.inr (.inl semicolon))
  | case4 name word code => exact accountsFor_readEntry _ _ rest code
  | case5 name word _ braceLine left opening =>
    obtain rfl : form = .word name := word
    obtain ⟨written, stringLine, keyword, rfl, define⟩ := opening_of_afterListName? opening
    intro tokens below
    exact .token (.listBody name written line stringLine braceLine define) below
  | case6 name word _ left noBody opening =>
    obtain rfl : form = .word name := word
    obtain ⟨written, stringLine, keyword, rfl, define⟩ := opening_of_afterListName? opening
    have noBrace := form_ne_of_noMark noBody
    intro tokens below
    exact .token (.listName name written line stringLine define noBrace) below
  | case7 => exact accountsFor_skipFragment _ _ rest
  | case8 => exact accountsFor_skipFragment _ _ rest

/-- A step takes the runs of the tokens that it makes, and separators. -/
theorem accountsFor_step : (step context first rest).AccountsFor (first :: rest) := by
  unfold step
  split
  · exact accountsFor_stepInside context first rest
  · exact accountsFor_stepOutside first rest

end Steps

/-! ## Runs -/

/-- The reports of the blocks that have no end own nothing. -/
theorem accounts_atEnd (blocks : List OpenBlock) : Accounts [] (blocks.map Context.unterminated) := by
  induction blocks with
  | nil => exact .nil
  | cons block outer ih => exact .token (.unterminated block) ih

theorem accounts_tokensFrom (context : Context) (lexemes : List Lexeme) :
    Accounts lexemes (tokensFrom context lexemes) := by
  fun_induction tokensFrom context lexemes with
  | case1 context => exact accounts_atEnd context.blocks
  | case2 context first rest made ih => exact accountsFor_step context first rest _ ih

/-- The tokens of a text account for its lexemes. -/
theorem accounts_tokenize (text : String) : Accounts (lex text) (tokenize text) :=
  accounts_tokensFrom .outside (lex text)

end Codebook.Definition
