import Codebook.Proofs.Definition.Ownership

/-!
# What a step does

What is open and the first lexeme decide what a step does, before it looks at the lexemes that follow:
there are six actions (`Action`), and each step is one of them (`action_step`). Which one it is, the lemmas
on single steps say.
-/

namespace Codebook.Definition

open Codebook.Text

/-- Reads what follows the name of a list, or skips the name as a fragment. -/
def openList (name : String) (first : Lexeme) (rest : List Lexeme) : Step :=
  match afterListName? rest with
  | some (⟨.mark .openBrace, _⟩ :: left) => ⟨[.listOpen name first.line], ⟨true, []⟩, left⟩
  | some left => ⟨[.listOpen name first.line], .outside, left⟩
  | none => skipFragment .outside first rest

section OpenList

variable {name : String} {first : Lexeme} {rest left : List Lexeme}

theorem openList_body {braceLine : Nat}
    (opening : afterListName? rest = some (⟨.mark .openBrace, braceLine⟩ :: left)) :
    openList name first rest = ⟨[.listOpen name first.line], ⟨true, []⟩, left⟩ := by
  rw [openList, opening]

theorem openList_bare (opening : afterListName? rest = some left)
    (noBrace : ∀ l ∈ left.head?, l.form ≠ .mark .openBrace) :
    openList name first rest = ⟨[.listOpen name first.line], .outside, left⟩ := by
  rw [openList, opening]
  rcases left with _ | ⟨⟨form, line⟩, left⟩
  · rfl
  · split
    · next same =>
      cases same
      exact absurd rfl (noBrace _ rfl)
    · next other _ same =>
      cases same
      rfl
    · next none => cases none

theorem openList_skipped (none : afterListName? rest = none) :
    openList name first rest = skipFragment .outside first rest := by
  rw [openList, none]

/-- After the name of a list comes an opening with a brace, an opening without one, or none. -/
theorem openList_cases (name : String) (first : Lexeme) (rest : List Lexeme) :
    (∃ left, openList name first rest = ⟨[.listOpen name first.line], ⟨true, []⟩, left⟩) ∨
      (∃ left, openList name first rest = ⟨[.listOpen name first.line], .outside, left⟩) ∨
        openList name first rest = skipFragment .outside first rest := by
  cases opening : afterListName? rest with
  | none => exact .inr (.inr (openList_skipped opening))
  | some left =>
    rcases begins_or_form_ne .openBrace left with ⟨braceLine, more, rfl⟩ | noBrace
    · exact .inl ⟨more, openList_body opening⟩
    · exact .inr (.inl ⟨left, openList_bare opening noBrace⟩)

end OpenList

/-- The actions of the reader, each given by what it makes of the lexemes after the first. -/
inductive Action (context : Context) (first : Lexeme) : (List Lexeme → Step) → Prop
  | passSeparator : first.IsSeparator → Action context first fun rest => ⟨[], context, rest⟩
  | closeBlock {block : OpenBlock} {outer : List OpenBlock} :
    context.blocks = block :: outer →
    Action context first (closeBlock { context with blocks := outer } first.line)
  | closeList :
    context = ⟨true, []⟩ →
    Action context first fun rest => ⟨[.listClose first.line], .outside, dropMark .semicolon rest⟩
  | readEntry : first.isCode = true → Action context first (readEntry context first)
  | openList (name : String) :
    context = .outside → first.form = .word name → Action context first (openList name first)
  | skipFragment : Action context first (skipFragment context first)

variable (context : Context) (first : Lexeme)

theorem action_stepInside (inside : context.isInside = true) :
    Action context first (stepInside context first) := by
  rcases first with ⟨form, line⟩
  cases form with
  | word text =>
    by_cases code : (⟨.word text, line⟩ : Lexeme).isCode = true
    · have reads : stepInside context ⟨.word text, line⟩ = Definition.readEntry context ⟨.word text, line⟩ :=
        funext fun rest => if_pos code
      exact reads ▸ .readEntry code
    · have skips : stepInside context ⟨.word text, line⟩ =
          Definition.skipFragment context ⟨.word text, line⟩ :=
        funext fun rest => if_neg code
      exact skips ▸ .skipFragment
  | string written => exact .skipFragment
  | strayQuote => exact .skipFragment
  | mark mark =>
    cases mark with
    | comma => exact .passSeparator (.inl rfl)
    | semicolon => exact .passSeparator (.inr (.inl rfl))
    | closeBrace =>
      rcases context with ⟨inList, _ | ⟨block, outer⟩⟩
      · cases inList with
        | true => exact .closeList rfl
        | false => cases inside
      · exact .closeBlock rfl
    | _ => exact .skipFragment

theorem action_stepOutside : Action .outside first (stepOutside first) := by
  rcases first with ⟨form, line⟩
  cases form with
  | word text =>
    by_cases code : (⟨.word text, line⟩ : Lexeme).isCode = true
    · have reads : stepOutside ⟨.word text, line⟩ = Definition.readEntry .outside ⟨.word text, line⟩ :=
        funext fun rest => if_pos code
      exact reads ▸ .readEntry code
    · have opens : stepOutside ⟨.word text, line⟩ = Definition.openList text ⟨.word text, line⟩ :=
        funext fun rest => if_neg code
      exact opens ▸ .openList text rfl rfl
  | string written => exact .skipFragment
  | strayQuote => exact .skipFragment
  | mark mark =>
    cases mark with
    | comma => exact .passSeparator (.inl rfl)
    | semicolon => exact .passSeparator (.inr (.inl rfl))
    | closeBrace => exact .passSeparator (.inr (.inr rfl))
    | _ => exact .skipFragment

/-- Each step is one of the actions. -/
theorem action_step : Action context first (step context first) := by
  by_cases inside : context.isInside = true
  · have steps : step context first = stepInside context first :=
      funext fun rest => if_pos inside
    exact steps ▸ action_stepInside context first inside
  · have steps : step context first = stepOutside first :=
      funext fun rest => if_neg inside
    rw [steps, Context.eq_outside inside]
    exact action_stepOutside first

/-! ## Single steps -/

section Single

variable {context first} {line : Nat} (rest : List Lexeme)

/-- A word that is no code names a list outside of every list and block. -/
theorem step_word {name : String} (noCode : (⟨.word name, line⟩ : Lexeme).isCode = false) :
    step .outside ⟨.word name, line⟩ rest = openList name ⟨.word name, line⟩ rest := by
  have outside : Context.outside.isInside = false := rfl
  rw [step, if_neg (by rw [outside]; exact Bool.false_ne_true), stepOutside]
  exact if_neg (by rw [noCode]; exact Bool.false_ne_true)

/-- Where something is open, what is neither a separator nor a code is skipped as a fragment. -/
theorem step_fragment (inside : context.isInside = true) (noSeparator : ¬first.IsSeparator)
    (noCode : ¬first.isCode = true) : step context first rest = skipFragment context first rest := by
  rw [step, if_pos inside, stepInside]
  split
  · next brace => exact absurd (.inr (.inr brace)) noSeparator
  · next comma => exact absurd (.inl comma) noSeparator
  · next semicolon => exact absurd (.inr (.inl semicolon)) noSeparator
  · exact if_neg noCode

end Single

end Codebook.Definition
