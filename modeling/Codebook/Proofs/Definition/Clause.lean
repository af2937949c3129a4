import Codebook.Definition.Rendering
import Codebook.Definition.Token
import Codebook.Proofs.Definition.Label
import Codebook.Proofs.Text.Blank
import Mathlib.Tactic.MkIffOfInductiveProp

/-!
# Bracket clauses as they are written

A bracket clause holds the names of codes between braces, on a line of its own. Where the codes stay
inside of their string (`IsEnclosed`), its lexemes do not depend on them but for that string. The value of
the property is the string without its braces: the names with commas between them, if the codes have no
quotes and no blanks around them (`IsQuotable`).
-/

namespace Codebook.Definition

open Codebook.Text

/-! ## Names of codes -/

/-- The names of codes, with commas between them. -/
def namesOf (codes : List String) : String :=
  ",".intercalate (codes.map ("_" ++ ·))

/-- Whether a code may stand in the string of a bracket clause and does not end it: it is on one line,
and its quotes come in pairs. -/
@[mk_iff]
structure IsEnclosed (code : String) : Prop where
  sameLine : '\n' ∉ code.toList
  doubled : doubleQuotes (unquote code).toList = code.toList

instance : DecidablePred IsEnclosed := fun code =>
  decidable_of_iff _ (isEnclosed_iff code).symm

/-- Whether a code may stand in the string of a bracket clause and is read back as it is. -/
@[mk_iff]
structure IsQuotable (code : String) : Prop where
  noQuote : '"' ∉ code.toList
  sameLine : '\n' ∉ code.toList
  trimmed : IsTrimmed code

instance : DecidablePred IsQuotable := fun code =>
  decidable_of_iff _ (isQuotable_iff code).symm

/-- A code on one line without quotes does not end its string. -/
theorem isEnclosed_of_noQuote {code : String} (noQuote : '"' ∉ code.toList)
    (sameLine : '\n' ∉ code.toList) : IsEnclosed code where
  sameLine := sameLine
  doubled := by rw [unquote_eq_self noQuote, doubleQuotes_eq_self noQuote]

theorem IsQuotable.isEnclosed {code : String} (quotable : IsQuotable code) : IsEnclosed code :=
  isEnclosed_of_noQuote quotable.noQuote quotable.sameLine

theorem namesOf_cons_cons (code next : String) (codes : List String) :
    namesOf (code :: next :: codes) = "_" ++ code ++ "," ++ namesOf (next :: codes) := by
  rw [namesOf, List.map_cons, List.map_cons, String.intercalate_cons_cons]
  rfl

theorem namesOf_singleton (code : String) : namesOf [code] = "_" ++ code := by
  rw [namesOf, List.map_singleton, String.intercalate_singleton]

theorem head?_namesOf {codes : List String} (nonempty : codes ≠ []) :
    (namesOf codes).toList.head? = some '_' := by
  rcases codes with _ | ⟨code, _ | ⟨next, rest⟩⟩
  · exact absurd rfl nonempty
  · rw [namesOf_singleton, String.toList_append]
    rfl
  · rw [namesOf_cons_cons, String.toList_append, String.toList_append, String.toList_append]
    rfl

theorem codesValue_eq {codes : List String} (nonempty : codes ≠ []) :
    codesValue codes = "\x7b" ++ namesOf codes ++ "\x7d" := by
  have same : "_" ++ ",_".intercalate codes = namesOf codes := by
    induction codes with
    | nil => exact absurd rfl nonempty
    | cons code rest ih =>
      cases rest with
      | nil => rw [String.intercalate_singleton, namesOf_singleton]
      | cons next rest =>
        rw [String.intercalate_cons_cons, namesOf_cons_cons, ← ih (List.cons_ne_nil _ _),
          show (",_" : String) = "," ++ "_" from rfl]
        simp only [String.append_assoc]
  rw [codesValue, ← same, show ("\x7b_" : String) = "\x7b" ++ "_" from rfl]
  simp only [String.append_assoc]

theorem toList_codesValue {codes : List String} (nonempty : codes ≠ []) :
    (codesValue codes).toList = '\x7b' :: ((namesOf codes).toList ++ ['\x7d']) := by
  rw [codesValue_eq nonempty, String.toList_append, String.toList_append]
  rfl

theorem mem_namesOf {codes : List String} {c : Char} (member : c ∈ (namesOf codes).toList) :
    c = '_' ∨ c = ',' ∨ ∃ code ∈ codes, c ∈ code.toList := by
  induction codes with
  | nil => cases member
  | cons code rest ih =>
    have front : c ∈ ("_" ++ code).toList → c = '_' ∨ c ∈ code.toList := by
      rw [String.toList_append, List.mem_append]
      exact Or.imp_left List.mem_singleton.1
    cases rest with
    | nil =>
      rw [namesOf_singleton] at member
      exact (front member).imp_right fun found => .inr ⟨code, List.mem_cons_self, found⟩
    | cons next rest =>
      rw [namesOf_cons_cons, String.toList_append, List.mem_append, String.toList_append,
        List.mem_append] at member
      rcases member with (member | member) | member
      · exact (front member).imp_right fun found => .inr ⟨code, List.mem_cons_self, found⟩
      · exact .inr (.inl (List.mem_singleton.1 member))
      · rcases ih member with found | found | ⟨other, among, found⟩
        · exact .inl found
        · exact .inr (.inl found)
        · exact .inr (.inr ⟨other, .tail _ among, found⟩)

section Names

variable {codes : List String} (quotable : ∀ code ∈ codes, IsQuotable code)
include quotable

theorem quote_not_mem_namesOf : '"' ∉ (namesOf codes).toList := by
  intro member
  rcases mem_namesOf member with same | same | ⟨code, among, found⟩
  · cases same
  · cases same
  · exact (quotable code among).noQuote found

/-- The names of codes end in an underscore or in the last character of a code, so in no blank. -/
theorem getLast?_namesOf : ∀ c ∈ (namesOf codes).toList.getLast?, isBlank c = false := by
  have name : ∀ code ∈ codes, ∃ c, ("_" ++ code).toList.getLast? = some c ∧ isBlank c = false := by
    intro code among
    rw [String.toList_append]
    cases last : code.toList.getLast? with
    | none => exact ⟨'_', by rw [List.getLast?_append, last]; rfl, by decide⟩
    | some c =>
      exact ⟨c, by rw [List.getLast?_append, last]; rfl, (quotable code among).trimmed.2 c last⟩
  suffices found : codes ≠ [] → ∃ c, (namesOf codes).toList.getLast? = some c ∧ isBlank c = false by
    intro c member
    by_cases empty : codes = []
    · subst empty
      cases member
    · obtain ⟨d, last, dark⟩ := found empty
      cases last.symm.trans member
      exact dark
  intro nonempty
  clear quotable
  induction codes with
  | nil => exact absurd rfl nonempty
  | cons code rest ih =>
    cases rest with
    | nil =>
      rw [namesOf_singleton]
      exact name code List.mem_cons_self
    | cons next rest =>
      obtain ⟨c, last, dark⟩ := ih (fun other among => name other (.tail _ among))
        (List.cons_ne_nil _ _)
      refine ⟨c, ?_, dark⟩
      rw [namesOf_cons_cons, String.toList_append, List.getLast?_append, last]
      rfl

/-! ## Strings of bracket clauses -/

variable (nonempty : codes ≠ [])
include nonempty

theorem quote_not_mem_codesValue : '"' ∉ (codesValue codes).toList := by
  rw [toList_codesValue nonempty, List.mem_cons, List.mem_append, List.mem_singleton]
  rintro (same | member | same)
  · cases same
  · exact quote_not_mem_namesOf quotable member
  · cases same

/-- The property that is read from the string of a bracket clause is the names of the codes. -/
theorem propertyValue_codesValue :
    propertyValue (unquote (codesValue codes)) = namesOf codes := by
  have written := toList_codesValue nonempty
  have outer : trimChars (codesValue codes).toList = (codesValue codes).toList := by
    rw [written]
    refine trimChars_eq_self ?_ ?_
    · rintro c ⟨⟩
      decide
    · intro c last
      rw [← List.cons_append, List.getLast?_concat] at last
      cases last
      decide
  have inner : trimChars (namesOf codes).toList = (namesOf codes).toList := by
    refine trimChars_eq_self ?_ (getLast?_namesOf quotable)
    rw [head?_namesOf nonempty]
    rintro c ⟨⟩
    decide
  have braces : withoutBraces (codesValue codes).toList = (namesOf codes).toList := by
    rw [written, withoutBraces, List.getLast?_concat, List.dropLast_concat]
    rfl
  rw [propertyValue, unquote_eq_self (quote_not_mem_codesValue quotable nonempty), outer, braces, inner,
    String.ofList_toList]

end Names

section Enclosed

variable {codes : List String} (enclosed : ∀ code ∈ codes, IsEnclosed code)
include enclosed

theorem newline_not_mem_namesOf : '\n' ∉ (namesOf codes).toList := by
  intro member
  rcases mem_namesOf member with same | same | ⟨code, among, found⟩
  · cases same
  · cases same
  · exact (enclosed code among).sameLine found

/-- The names of codes are those of what the codes stand for, with every quote doubled. -/
theorem doubleQuotes_namesOf :
    doubleQuotes (namesOf (codes.map unquote)).toList = (namesOf codes).toList := by
  have name : ∀ code ∈ codes, doubleQuotes ("_" ++ unquote code).toList = ("_" ++ code).toList := by
    intro code among
    rw [String.toList_append, doubleQuotes_append, (enclosed code among).doubled, String.toList_append]
    rfl
  clear enclosed
  induction codes with
  | nil => rfl
  | cons code rest ih =>
    have first := name code List.mem_cons_self
    cases rest with
    | nil => rw [List.map_singleton, namesOf_singleton, first, namesOf_singleton]
    | cons next rest =>
      have others := ih fun other among => name other (.tail _ among)
      rw [List.map_cons] at others
      have comma : doubleQuotes ",".toList = ",".toList := rfl
      rw [List.map_cons, List.map_cons, namesOf_cons_cons, String.toList_append, doubleQuotes_append,
        others, String.toList_append, doubleQuotes_append, first, comma, ← String.toList_append,
        ← String.toList_append, namesOf_cons_cons]

theorem newline_not_mem_codesValue : '\n' ∉ (codesValue codes).toList := by
  by_cases nonempty : codes = []
  · rw [nonempty]
    decide
  rw [toList_codesValue nonempty, List.mem_cons, List.mem_append, List.mem_singleton]
  rintro (same | member | same)
  · cases same
  · exact newline_not_mem_namesOf enclosed member
  · cases same

theorem doubleQuotes_codesValue :
    doubleQuotes (codesValue (codes.map unquote)).toList = (codesValue codes).toList := by
  by_cases nonempty : codes = []
  · rw [nonempty]
    rfl
  have undoubled : codes.map unquote ≠ [] := by simpa using nonempty
  rw [toList_codesValue undoubled, toList_codesValue nonempty, ← doubleQuotes_namesOf enclosed,
    ← List.singleton_append, doubleQuotes_append, doubleQuotes_append]
  rfl

/-- The string of a bracket clause is closed by the quote that is written after it, and by no other. -/
theorem lexFrom_codesValue (line : Nat) {rest : List Char} (single : rest.head? ≠ some '"') :
    lexFrom line ('"' :: ((codesValue codes).toList ++ '"' :: rest)) =
      ⟨.string (codesValue codes), line⟩ :: lexFrom line rest := by
  have sameLine : '\n' ∉ (codesValue (codes.map unquote)).toList := by
    intro member
    have written := mem_doubleQuotes member
    rw [doubleQuotes_codesValue enclosed] at written
    exact newline_not_mem_codesValue enclosed written
  have closed := closing?_doubleQuotes sameLine single
  rw [doubleQuotes_codesValue enclosed] at closed
  rw [lexFrom_string closed, String.ofList_toList]

end Enclosed

/-! ## Lines of bracket clauses -/

theorem lexFrom_indent (line : Nat) (rest : List Char) :
    lexFrom line (indent.toList ++ rest) = lexFrom line rest :=
  lexFrom_blanks (by decide) (by decide)

section Clause

variable {key : String} {codes : List String} (word : IsWord key)
  (enclosed : ∀ code ∈ codes, IsEnclosed code)
include word enclosed

theorem lexLines_clauseLines (line : Nat) :
    lexLines line (clauseLines key codes) =
      [⟨.mark .openBracket, line⟩, ⟨.word key, line + 1⟩, ⟨.mark .equals, line + 1⟩,
        ⟨.string (codesValue codes), line + 1⟩, ⟨.mark .closeBracket, line + 2⟩] := by
  have opened : lexFrom line "[".toList = [⟨.mark .openBracket, line⟩] :=
    (lexFrom_mark .openBracket).trans (by rw [lexFrom_nil])
  have closed : lexFrom (line + 1 + 1) "]".toList = [⟨.mark .closeBracket, line + 2⟩] :=
    (lexFrom_mark .closeBracket).trans (by rw [lexFrom_nil])
  have property : lexFrom (line + 1)
      (indent ++ key ++ " = \"" ++ codesValue codes ++ "\"").toList =
        [⟨.word key, line + 1⟩, ⟨.mark .equals, line + 1⟩,
          ⟨.string (codesValue codes), line + 1⟩] := by
    have stop : ∀ c ∈ (' ' :: Mark.equals.char :: ' ' :: '"' ::
        ((codesValue codes).toList ++ '"' :: [])).head?, isWordChar c = false := by
      rintro c ⟨⟩
      decide
    simp only [String.toList_append, List.append_assoc]
    rw [lexFrom_indent]
    show lexFrom (line + 1) (key.toList ++
      (' ' :: Mark.equals.char :: ' ' :: '"' :: ((codesValue codes).toList ++ '"' :: []))) = _
    rw [lexFrom_isWord word _ stop, lexFrom_blank (by decide) (by decide), lexFrom_mark,
      lexFrom_blank (by decide) (by decide),
      lexFrom_codesValue enclosed _ (by simp), lexFrom_nil]
  rw [clauseLines, lexLines, lexLines, lexLines, lexLines, opened, closed, property]
  rfl

theorem sameLine_clauseLines : ∀ text ∈ clauseLines key codes, '\n' ∉ text.toList := by
  intro text member
  simp only [clauseLines, List.mem_cons, List.not_mem_nil, or_false] at member
  rcases member with rfl | rfl | rfl
  · decide
  · simp only [String.toList_append, List.mem_append, not_or]
    exact ⟨⟨⟨⟨by decide, word.newline_not_mem⟩, by decide⟩,
      newline_not_mem_codesValue enclosed⟩, by decide⟩
  · decide

end Clause

end Codebook.Definition
