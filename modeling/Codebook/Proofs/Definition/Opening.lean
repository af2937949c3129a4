import Codebook.Proofs.Definition.Ownership

/-!
# Names of lists that are read

What a list is called in its opening is a word, so a name with a line feed in it is read from no text
(`newline_not_mem_of_listOpen`). A name that is a word and does not begin with an underscore is read back
from the lines that open the list, whatever follows these (`head?_tokenize_opening`).
-/

namespace Codebook.Definition

/-! ## Words of a text -/

/-- The words among the lexemes of a text are words. -/
theorem isWord_of_mem_lexFrom {start line : Nat} {chars : List Char} {word : String}
    (member : ⟨.word word, line⟩ ∈ lexFrom start chars) : IsWord word := by
  fun_induction lexFrom start chars with
  | case1 => cases member
  | case2 _ _ _ _ ih => exact ih member
  | case3 _ _ _ _ _ ih => exact ih member
  | case4 _ _ _ _ _ _ _ _ _ ih =>
    rcases List.mem_cons.1 member with same | member
    · cases same
    · exact ih member
  | case5 _ _ _ _ _ _ _ ih =>
    rcases List.mem_cons.1 member with same | member
    · cases same
    · exact ih member
  | case6 _ _ _ _ _ _ _ _ ih =>
    rcases List.mem_cons.1 member with same | member
    · cases same
    · exact ih member
  | case7 line c rest _ dark noQuote noMark ih =>
    rcases List.mem_cons.1 member with same | member
    · cases same
      exact isWord_run (by simp_all [isWordChar]) rest
    · exact ih member

/-! ## Names -/

/-- The name of a list is a word in front of its token. -/
theorem mem_of_accounts {lexemes : List Lexeme} {tokens : List Token} (accounts : Accounts lexemes tokens)
    {name : String} {line : Nat} (member : .listOpen name line ∈ tokens) :
    ⟨.word name, line⟩ ∈ lexemes := by
  induction accounts with
  | nil => cases member
  | separator _ _ ih => exact .tail _ (ih member)
  | token owns _ ih =>
    rcases List.mem_cons.1 member with rfl | member
    · cases owns <;> exact List.mem_cons_self
    · exact List.mem_append_right _ (ih member)

theorem newline_not_mem_of_listOpen {text name : String} {line : Nat}
    (member : .listOpen name line ∈ tokenize text) : '\n' ∉ name.toList :=
  (isWord_of_mem_lexFrom (mem_of_accounts (accounts_tokenize text) member)).newline_not_mem

/-! ## Openings -/

/-- Lines in front of others are read by themselves. -/
theorem lexFrom_intercalate_append {above below : List String}
    (single : ∀ text ∈ above, '\n' ∉ text.toList) (nonempty : below ≠ []) (line : Nat) :
    lexFrom line ("\n".intercalate (above ++ below)).toList =
      lexLines line above ++ lexFrom (line + above.length) ("\n".intercalate below).toList := by
  induction above generalizing line with
  | nil => rfl
  | cons text rest ih =>
    obtain ⟨next, more, split⟩ := List.exists_cons_of_ne_nil (List.append_ne_nil_of_right_ne_nil rest nonempty)
    have counts : text.toList.count '\n' = 0 :=
      List.count_eq_zero.2 (single text List.mem_cons_self)
    rw [List.cons_append, split, lexFrom_intercalate_cons, ← split, counts, lexLines,
      ih fun text member => single text (.tail _ member)]
    rw [List.append_assoc, List.length_cons, Nat.add_zero, Nat.add_right_comm, Nat.add_assoc]

theorem head?_tokenize_opening {name : String} {more : List String} (word : IsWord name)
    (noCode : name.toList.head? ≠ some '_') (nonempty : more ≠ []) :
    (tokenize ("\n".intercalate (opening name ++ more))).head? = some (.listOpen name 1) := by
  rw [tokenize, lex, lexFrom_intercalate_append (sameLine_opening word) nonempty,
    tokensFrom_opening word noCode]
  rfl

end Codebook.Definition
