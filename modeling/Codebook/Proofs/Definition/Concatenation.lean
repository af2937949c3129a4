import Codebook.Proofs.Definition.Lines
import Codebook.Proofs.Definition.Steps
import Mathlib.Data.List.Basic

/-!
# Texts one after the other

A text whose last token ends a list can be read apart from the text that follows on the next line
(`tokenize_append`). The reader looks ahead, and it may run to the end of the lexemes when an entry fails;
but a step that leaves a lexeme did not look at what comes after it (`step_append`), and a step that
leaves none and after which all is closed is a separator or the end of a list (`step_of_settles`).
-/

namespace Codebook.Definition

open Codebook.Text

variable {context : Context} {first : Lexeme} {rest more : List Lexeme}

/-! ## Parts that do not look at the end -/

/-- A step with lexemes after those that it leaves. -/
def Step.before (made : Step) (more : List Lexeme) : Step :=
  { made with rest := made.rest ++ more }

theorem dropMark_append {mark : Mark} {lexemes : List Lexeme} (nonempty : lexemes ≠ [])
    (more : List Lexeme) : dropMark mark (lexemes ++ more) = dropMark mark lexemes ++ more := by
  rcases lexemes with _ | ⟨l, rest⟩
  · exact absurd rfl nonempty
  rw [List.cons_append, dropMark, dropMark]
  split <;> rfl

theorem fragmentTail_append {depth : Depth} {lexemes : List Lexeme}
    (stops : (fragmentTail depth lexemes).2 ≠ []) (more : List Lexeme) :
    fragmentTail depth (lexemes ++ more) =
      ((fragmentTail depth lexemes).1, (fragmentTail depth lexemes).2 ++ more) := by
  induction lexemes generalizing depth with
  | nil => exact absurd rfl stops
  | cons l rest ih =>
    rw [fragmentTail] at stops
    rw [List.cons_append, fragmentTail, fragmentTail]
    split at stops
    · next comma => rw [if_pos comma, if_pos comma]
    next noComma =>
    rw [if_neg noComma, if_neg noComma]
    split at stops
    · next brace =>
      rw [if_pos brace, if_pos brace]
      rfl
    next noBrace =>
    rw [if_neg noBrace, if_neg noBrace, ih stops]

theorem skipFragment_append (stops : (skipFragment context first rest).rest ≠ []) (more : List Lexeme) :
    skipFragment context first (rest ++ more) = (skipFragment context first rest).before more := by
  have tail := fragmentTail_append stops more
  rw [skipFragment, tail]
  rfl

/-! ## Bracket clauses and entries -/

theorem readProperties_append {read found : Properties} {lexemes left : List Lexeme}
    (ok : readProperties read lexemes = some (found, left)) (more : List Lexeme) :
    readProperties read (lexemes ++ more) = some (found, left ++ more) := by
  fun_induction readProperties read lexemes with
  | case1 read line rest =>
    cases ok
    rfl
  | case2 read line rest ih => exact ih ok
  | case3 read key line equalsLine written valueLine rest ih => exact ih ok
  | case4 => cases ok

/-- Whether a lexeme opens no bracket and no brace and closes none. -/
def Lexeme.IsFlat (l : Lexeme) : Prop :=
  ∀ depth : Depth, depth.after l = depth

theorem Lexeme.IsFlat.form_ne {l : Lexeme} (flat : l.IsFlat) : l.form ≠ .mark .closeBrace := by
  intro brace
  have changed : Depth.after ⟨0, 1⟩ l = ⟨0, 0⟩ := by simp [Depth.after, brace]
  cases changed.symm.trans (flat ⟨0, 1⟩)

/-- Inside of a bracket a fragment goes on past all that opens and closes nothing. -/
theorem fragmentTail_of_flat {depth : Depth} (inside : 0 < depth.square) {lexemes : List Lexeme}
    (flat : ∀ l ∈ lexemes, l.IsFlat) : (fragmentTail depth lexemes).2 = [] := by
  have deep : (depth == ⟨0, 0⟩) = false := by
    refine beq_eq_false_iff_ne.2 fun same => ?_
    rw [same] at inside
    exact Nat.lt_irrefl 0 inside
  induction lexemes with
  | nil => rfl
  | cons l rest ih =>
    obtain ⟨first, others⟩ := List.forall_mem_cons.1 flat
    rw [fragmentTail, deep, Bool.and_false, if_neg Bool.false_ne_true, if_neg (by simp [first.form_ne]),
      first depth]
    exact ih others

/-- A bracket clause that fails would fail with more lexemes after it too, unless they ran out within
it. -/
theorem readProperties_eq_none {read : Properties} {lexemes : List Lexeme}
    (fails : readProperties read lexemes = none) (more : List Lexeme) :
    readProperties read (lexemes ++ more) = none ∨ ∀ l ∈ lexemes, l.IsFlat := by
  have word (name : String) (line : Nat) : (⟨.word name, line⟩ : Lexeme).IsFlat := fun _ => rfl
  have equals (line : Nat) : (⟨.mark .equals, line⟩ : Lexeme).IsFlat := fun _ => rfl
  fun_induction readProperties read lexemes with
  | case1 => cases fails
  | case2 read line rest ih =>
    exact (ih fails).imp_right fun runsOut => List.forall_mem_cons.2 ⟨fun _ => rfl, runsOut⟩
  | case3 read key line equalsLine written valueLine rest ih =>
    refine (ih fails).imp_right fun runsOut => ?_
    simp only [List.forall_mem_cons]
    exact ⟨word key line, equals equalsLine, fun _ => rfl, runsOut⟩
  | case4 lexemes read noClose noComma noPair =>
    -- the clause can only go on with a key, an equals sign and a string, and each may be the last lexeme
    rcases lexemes with _ | ⟨⟨form, line⟩, rest⟩
    · exact .inr (List.forall_mem_nil _)
    by_cases key : ∃ name, form = .word name
    · obtain ⟨name, rfl⟩ := key
      rcases rest with _ | ⟨⟨form, equalsLine⟩, rest⟩
      · exact .inr (List.forall_mem_singleton.2 (word name line))
      by_cases sign : form = .mark .equals
      · subst sign
        rcases rest with _ | ⟨⟨form, valueLine⟩, rest⟩
        · refine .inr ?_
          simp only [List.forall_mem_cons]
          exact ⟨word name line, equals equalsLine, List.forall_mem_nil _⟩
        · refine .inl ?_
          rw [List.cons_append, List.cons_append, List.cons_append, readProperties]
          · rintro _ _ ⟨⟩
          · rintro _ _ ⟨⟩
          · intro _ _ _ _ _ _ same
            simp only [List.cons.injEq, Lexeme.mk.injEq] at same
            obtain ⟨-, -, ⟨rfl, -⟩, -⟩ := same
            exact noPair _ _ _ _ _ _ rfl
      · refine .inl ?_
        rw [List.cons_append, List.cons_append, readProperties]
        · rintro _ _ ⟨⟩
        · rintro _ _ ⟨⟩
        · intro _ _ _ _ _ _ same
          simp only [List.cons.injEq, Lexeme.mk.injEq] at same
          exact sign same.2.1.1
    · refine .inl ?_
      rw [List.cons_append, readProperties]
      · rintro _ _ ⟨⟩
        exact noClose _ _ rfl
      · rintro _ _ ⟨⟩
        exact noComma _ _ rfl
      · intro _ _ _ _ _ _ same
        simp only [List.cons.injEq, Lexeme.mk.injEq] at same
        exact key ⟨_, same.1.1⟩

/-- Whether lexemes end before it is clear if they are the rest of an entry: after its code, or within its
bracket clause. -/
inductive BreaksOff : List Lexeme → Prop
  | code : BreaksOff []
  | clause (written : String) (line bracketLine : Nat) {rest : List Lexeme} :
    (∀ l ∈ rest, l.IsFlat) →
    BreaksOff (⟨.string written, line⟩ :: ⟨.mark .openBracket, bracketLine⟩ :: rest)

/-- A fragment takes lexemes that break off whole. -/
theorem BreaksOff.fragmentTail_eq_nil {lexemes : List Lexeme} (breaks : BreaksOff lexemes) :
    (fragmentTail ⟨0, 0⟩ lexemes).2 = [] := by
  cases breaks with
  | code => rfl
  | clause written line bracketLine flat => exact @fragmentTail_of_flat ⟨1, 0⟩ Nat.zero_lt_one _ flat

theorem entryBody?_append {lexemes left : List Lexeme} {label : String} {properties : Properties}
    (ok : entryBody? lexemes = some (label, properties, left)) (stops : left ≠ []) (more : List Lexeme) :
    entryBody? (lexemes ++ more) = some (label, properties, left ++ more) := by
  fun_cases entryBody? lexemes with
  | case1 written line bracketLine rest =>
    obtain ⟨⟨found, after⟩, read, same⟩ := Option.map_eq_some_iff.1 ok
    cases same
    show (readProperties [] (rest ++ more)).map _ = _
    rw [readProperties_append read]
    rfl
  | case2 written line rest noBracket =>
    have noBracketAhead := form_ne_of_noMark noBracket
    rw [entryBody?_string written noBracketAhead] at ok
    cases ok
    have ahead : ∀ l ∈ (left ++ more).head?, l.form ≠ .mark .openBracket := by
      rwa [List.head?_append_of_ne_nil left stops]
    exact entryBody?_string written ahead
  | case3 lexemes noClause noLabel =>
    rw [entryBody?] at ok
    · cases ok
    · exact noClause
    · exact noLabel

/-- What fails to be an entry would fail with more lexemes after it too, unless it breaks off. -/
theorem entryBody?_eq_none {lexemes : List Lexeme} (fails : entryBody? lexemes = none)
    (more : List Lexeme) : entryBody? (lexemes ++ more) = none ∨ BreaksOff lexemes := by
  fun_cases entryBody? lexemes with
  | case1 written line bracketLine rest =>
    have failed : readProperties [] rest = none := Option.map_eq_none_iff.1 fails
    rcases readProperties_eq_none failed more with fails | runsOut
    · refine .inl ?_
      show (readProperties [] (rest ++ more)).map _ = none
      rw [fails]
      rfl
    · exact .inr (.clause written line bracketLine runsOut)
  | case2 written line rest noBracket =>
    rw [entryBody?_string written (form_ne_of_noMark noBracket)] at fails
    cases fails
  | case3 lexemes noClause noLabel =>
    rcases lexemes with _ | ⟨⟨form, line⟩, rest⟩
    · exact .inr .code
    · refine .inl ?_
      rw [List.cons_append, entryBody?]
      · intro _ _ _ _ same
        cases (List.cons.inj same).1
        exact noLabel _ _ _ rfl
      · intro _ _ _ same
        cases (List.cons.inj same).1
        exact noLabel _ _ _ rfl

theorem afterListName?_append {lexemes left : List Lexeme} (ok : afterListName? lexemes = some left)
    (more : List Lexeme) : afterListName? (lexemes ++ more) = some (left ++ more) := by
  obtain ⟨written, line, keyword, rfl, define⟩ := opening_of_afterListName? ok
  exact if_pos define

/-- What fails to open a list would fail with more lexemes after it too, unless they ran out within it; then
the fragment that is skipped instead takes them all. -/
theorem afterListName?_eq_none {lexemes : List Lexeme} (fails : afterListName? lexemes = none)
    (more : List Lexeme) :
    afterListName? (lexemes ++ more) = none ∨ ∀ depth, (fragmentTail depth lexemes).2 = [] := by
  fun_cases afterListName? lexemes with
  | case1 written line keyword rest define =>
    rw [afterListName?, if_pos define] at fails
    cases fails
  | case2 written line keyword rest other => exact .inl (if_neg other)
  | case3 lexemes short =>
    rcases lexemes with _ | ⟨⟨form, line⟩, _ | ⟨keyword, rest⟩⟩
    · exact .inr fun _ => rfl
    · by_cases label : ∃ written, form = .string written
      · obtain ⟨written, rfl⟩ := label
        exact .inr fun _ => rfl
      · refine .inl ?_
        rw [List.singleton_append, afterListName?]
        intro _ _ _ _ same
        cases (List.cons.inj same).1
        exact label ⟨_, rfl⟩
    · refine .inl ?_
      rw [List.cons_append, List.cons_append, afterListName?]
      intro _ _ _ _ same
      cases (List.cons.inj same).1
      exact short _ _ _ _ rfl

/-! ## Steps that do not look at the end -/

theorem readEntry_append (code : first.isCode = true) (stops : (readEntry context first rest).rest ≠ [])
    (more : List Lexeme) :
    readEntry context first (rest ++ more) = (readEntry context first rest).before more := by
  obtain ⟨name, written⟩ := Lexeme.exists_name_of_isCode code
  rw [written] at stops ⊢
  generalize first.line = line at stops ⊢
  cases body : entryBody? rest with
  | none =>
    rw [readEntry_skipped body] at stops ⊢
    rcases entryBody?_eq_none body more with fails | breaks
    · rw [readEntry_skipped fails]
      exact skipFragment_append stops more
    · exact absurd breaks.fragmentTail_eq_nil stops
  | some entry =>
    obtain ⟨label, properties, left⟩ := entry
    rcases begins_or_form_ne .openBrace left with ⟨braceLine, after, rfl⟩ | noBrace
    · rw [readEntry_header body]
      exact readEntry_header (entryBody?_append body (List.cons_ne_nil _ _) more)
    · rw [readEntry_item body noBrace] at stops ⊢
      have nonempty : left ≠ [] := by
        rintro rfl
        exact stops rfl
      have aheadNoBrace : ∀ l ∈ (left ++ more).head?, l.form ≠ .mark .openBrace := by
        rwa [List.head?_append_of_ne_nil left nonempty]
      rw [readEntry_item (entryBody?_append body nonempty more) aheadNoBrace, dropMark_append nonempty]
      rfl

theorem closeBlock_append {line : Nat} (stops : (closeBlock context line rest).rest ≠ [])
    (more : List Lexeme) :
    closeBlock context line (rest ++ more) = (closeBlock context line rest).before more := by
  rcases rest with _ | ⟨l, left⟩
  · exact absurd rfl stops
  rw [closeBlock] at stops
  rw [List.cons_append, closeBlock, closeBlock]
  split at stops
  · next keyword =>
    have nonempty : left ≠ [] := by
      rintro rfl
      exact stops rfl
    rw [if_pos keyword, if_pos keyword, dropMark_append nonempty]
    rfl
  · next other =>
    rw [if_neg other, if_neg other, ← List.cons_append, dropMark_append (List.cons_ne_nil _ _)]
    rfl

theorem openList_append {name : String} (stops : (openList name first rest).rest ≠ [])
    (more : List Lexeme) :
    openList name first (rest ++ more) = (openList name first rest).before more := by
  cases opening : afterListName? rest with
  | none =>
    rw [openList_skipped opening] at stops ⊢
    rcases afterListName?_eq_none opening more with fails | runsOut
    · rw [openList_skipped fails]
      exact skipFragment_append stops more
    · exact absurd (runsOut _) stops
  | some left =>
    have ahead := afterListName?_append opening more
    rcases begins_or_form_ne .openBrace left with ⟨braceLine, after, rfl⟩ | noBrace
    · rw [openList_body opening]
      exact openList_body ahead
    · rw [openList_bare opening noBrace] at stops ⊢
      have aheadNoBrace : ∀ l ∈ (left ++ more).head?, l.form ≠ .mark .openBrace := by
        rwa [List.head?_append_of_ne_nil left stops]
      exact openList_bare ahead aheadNoBrace

/-- A step that leaves a lexeme does not look at what comes after those that it leaves. -/
theorem step_append (stops : (step context first rest).rest ≠ []) (more : List Lexeme) :
    step context first (rest ++ more) = (step context first rest).before more := by
  have action := action_step context first
  generalize step context first = act at action stops ⊢
  cases action with
  | passSeparator _ => rfl
  | closeBlock _ => exact closeBlock_append stops more
  | closeList _ =>
    have nonempty : rest ≠ [] := by
      rintro rfl
      exact stops rfl
    simp only [dropMark_append nonempty, Step.before]
  | readEntry code => exact readEntry_append code stops more
  | openList name _ _ => exact openList_append stops more
  | skipFragment => exact skipFragment_append stops more

/-! ## Steps after which all is closed -/

/-- Whether tokens that are read with something open leave nothing open behind them: they end in the end
of a list, or there are none and nothing was open. -/
def Settles (context : Context) (tokens : List Token) : Prop :=
  (∃ line, tokens.getLast? = some (.listClose line)) ∨ tokens = [] ∧ context = .outside

theorem not_settles_readEntry : ¬Settles context (readEntry context first rest).tokens := by
  fun_cases readEntry context first rest <;> simp [Settles, skipFragment]

theorem not_settles_closeBlock {line : Nat} (outer : Context) :
    ¬Settles outer (closeBlock context line rest).tokens := by
  fun_cases closeBlock context line rest <;> simp [Settles]

theorem not_settles_skipFragment {kept : Context} :
    ¬Settles context (skipFragment kept first rest).tokens := by
  simp [Settles, skipFragment]

theorem not_settles_openList {name : String} : ¬Settles context (openList name first rest).tokens := by
  rcases openList_cases name first rest with ⟨left, body⟩ | ⟨left, bare⟩ | skipped
  · simp [Settles, body]
  · simp [Settles, bare]
  · rw [skipped]
    exact not_settles_skipFragment

/-- A step after which all is closed passes over a separator or ends a list, whatever follows. -/
theorem step_of_settles (settled : Settles context (step context first rest).tokens) :
    (∀ rest, step context first rest = ⟨[], .outside, rest⟩) ∨
      ∃ line, ∀ rest, step context first rest = ⟨[.listClose line], .outside, dropMark .semicolon rest⟩ := by
  have action := action_step context first
  generalize step context first = act at action settled ⊢
  cases action with
  | passSeparator _ =>
    rcases settled with ⟨line, last⟩ | ⟨_, rfl⟩
    · cases last
    · exact .inl fun _ => rfl
  | closeBlock _ => exact absurd settled (not_settles_closeBlock context)
  | closeList _ => exact .inr ⟨first.line, fun _ => rfl⟩
  | readEntry _ => exact absurd settled not_settles_readEntry
  | openList _ _ _ => exact absurd settled not_settles_openList
  | skipFragment => exact absurd settled not_settles_skipFragment

/-- No report of a block without an end leaves all closed. -/
theorem eq_nil_of_settles_atEnd {before : Context} (settled : Settles before context.atEnd) :
    context.atEnd = [] := by
  rcases settled with ⟨line, last⟩ | ⟨empty, _⟩
  · rw [Context.atEnd, List.getLast?_map] at last
    obtain ⟨block, _, report⟩ := Option.map_eq_some_iff.1 last
    cases report
  · exact empty

/-! ## Runs after which all is closed -/

/-- Where the tokens of a step and of what it leaves settle, the latter do, and the step either leaves a
lexeme or settles by itself. -/
theorem settles_of_step (settled : Settles context ((step context first rest).tokens
    ++ tokensFrom (step context first rest).context (step context first rest).rest)) :
    Settles (step context first rest).context
        (tokensFrom (step context first rest).context (step context first rest).rest) ∧
      ((step context first rest).rest ≠ [] ∨ Settles context (step context first rest).tokens) := by
  by_cases none : tokensFrom (step context first rest).context (step context first rest).rest = []
  · rw [none, List.append_nil] at settled
    have closed : (step context first rest).context = .outside := by
      rcases step_of_settles settled with passes | ⟨line, closes⟩
      · rw [passes]
      · rw [closes]
    exact ⟨.inr ⟨none, closed⟩, .inr settled⟩
  · rcases settled with ⟨line, last⟩ | ⟨empty, _⟩
    · rw [List.getLast?_append_of_ne_nil _ none] at last
      have below : Settles (step context first rest).context
          (tokensFrom (step context first rest).context (step context first rest).rest) := .inl ⟨line, last⟩
      refine ⟨below, .inl fun left => none ?_⟩
      rw [left, tokensFrom_nil] at below ⊢
      exact eq_nil_of_settles_atEnd below
    · exact absurd (List.append_eq_nil_iff.1 empty).2 none

theorem tokensFrom_cons_append (apart : (step context first rest).rest ≠ [] ∨
    Settles context (step context first rest).tokens) (more : List Lexeme) :
    tokensFrom context (first :: (rest ++ more)) = (step context first rest).tokens
      ++ tokensFrom (step context first rest).context ((step context first rest).rest ++ more) := by
  rw [tokensFrom_cons]
  rcases apart with stops | settled
  · rw [step_append stops]
    rfl
  rcases step_of_settles settled with passes | ⟨line, closes⟩
  · rw [passes, passes]
  · rw [closes, closes]
    simp only
    rcases rest with _ | ⟨l, rest⟩
    · rw [List.nil_append, tokensFrom_dropMark (.inr rfl)]
      rfl
    · rw [dropMark_append (List.cons_ne_nil l rest)]

/-- Lexemes whose tokens settle are read apart from those that follow. -/
theorem tokensFrom_append {lexemes : List Lexeme} (settled : Settles context (tokensFrom context lexemes))
    (more : List Lexeme) :
    tokensFrom context (lexemes ++ more) = tokensFrom context lexemes ++ tokensFrom .outside more := by
  -- what a step leaves settles too, so no step but one that settles by itself can use up the lexemes
  fun_induction tokensFrom context lexemes with
  | case1 context =>
    have none := eq_nil_of_settles_atEnd settled
    rcases settled with ⟨line, last⟩ | ⟨_, rfl⟩
    · rw [none] at last
      cases last
    · rfl
  | case2 context first rest made ih =>
    obtain ⟨below, apart⟩ := settles_of_step settled
    rw [List.cons_append, tokensFrom_cons_append apart, ih below, List.append_assoc]

/-- A text whose last token ends a list is read apart from the text on the next line. -/
theorem tokenize_append {above : String} {line : Nat}
    (closed : (tokenize above).getLast? = some (.listClose line)) (below : String) :
    tokenize (above ++ "\n" ++ below) =
      tokenize above ++ (tokenize below).map (Token.down (1 + above.toList.count '\n')) := by
  have lexemes : lex (above ++ "\n" ++ below) =
      lex above ++ (lex below).map (Lexeme.down (1 + above.toList.count '\n')) := by
    rw [lex, String.toList_append, String.toList_append, List.append_assoc,
      show "\n".toList = ['\n'] from rfl, List.singleton_append, lexFrom_append (isCut_newline _),
      lexFrom_newline, Nat.add_assoc, Nat.add_comm _ 1, lexFrom_add]
    rfl
  rw [tokenize, lexemes, tokensFrom_append (.inl ⟨line, closed⟩), tokensFrom_lex_down]
  rfl

end Codebook.Definition
