import Codebook.Definition.Rendering
import Codebook.Proofs.Definition.Lexing

/-!
# Labels as strings

A label is written on one line and with every quote doubled. The string that is read back stands for
the label on one line: doubling is undone, and the quotes of a label never close its string.
-/

namespace Codebook.Definition

open Codebook.Text

/-! ## Labels on one line -/

/-- A label on one line: every run of blanks with a line break in it is one space. -/
def onOneLine (label : String) : String :=
  String.ofList (foldLines label.toList)

theorem foldLinesFrom_sameLine (blanks chars : List Char) :
    ∀ c ∈ foldLinesFrom blanks chars, isLineBreak c = false := by
  have run : ∀ blanks, ∀ c ∈ foldLinesFrom.closeRun blanks, isLineBreak c = false := by
    intro blanks c member
    unfold foldLinesFrom.closeRun at member
    split at member
    · rw [List.mem_singleton.1 member]
      decide
    · next none =>
      rw [List.mem_reverse] at member
      simpa using fun broken => none (List.any_eq_true.2 ⟨c, member, broken⟩)
  fun_induction foldLinesFrom blanks chars with
  | case1 blanks => exact run blanks
  | case2 blanks c rest blank ih => exact ih
  | case3 blanks c rest dark ih =>
    intro d member
    rcases List.mem_append.1 member with member | member
    · exact run blanks d member
    rcases List.mem_cons.1 member with rfl | member
    · simp only [isLineBreak, Bool.or_eq_false_iff, beq_eq_false_iff_ne]
      refine ⟨?_, ?_⟩
      · rintro rfl
        exact dark (by decide)
      · rintro rfl
        exact dark (by decide)
    · exact ih d member

theorem newline_not_mem_foldLines (chars : List Char) : '\n' ∉ foldLines chars := by
  intro member
  cases foldLinesFrom_sameLine [] chars '\n' member

/-! ## Doubled quotes -/

theorem doubleQuotes_cons (c : Char) (chars : List Char) :
    doubleQuotes (c :: chars) = (if c == '"' then ['"', '"'] else [c]) ++ doubleQuotes chars := rfl

theorem mem_of_mem_doubleQuotes {chars : List Char} {c : Char} (member : c ∈ doubleQuotes chars) :
    c ∈ chars := by
  obtain ⟨d, among, same⟩ := List.mem_flatMap.1 member
  split at same
  · next quote =>
    obtain rfl := beq_iff_eq.1 quote
    simp only [List.mem_cons, List.not_mem_nil, or_false, or_self] at same
    exact same ▸ among
  · exact List.mem_singleton.1 same ▸ among

theorem mem_doubleQuotes {chars : List Char} {c : Char} (member : c ∈ chars) :
    c ∈ doubleQuotes chars := by
  refine List.mem_flatMap.2 ⟨c, member, ?_⟩
  split
  · next quote => rw [beq_iff_eq.1 quote]; exact List.mem_cons_self
  · exact List.mem_cons_self

theorem doubleQuotes_append (a b : List Char) :
    doubleQuotes (a ++ b) = doubleQuotes a ++ doubleQuotes b :=
  List.flatMap_append

theorem unquoteChars_doubleQuotes (chars : List Char) :
    unquoteChars (doubleQuotes chars) = chars := by
  induction chars with
  | nil => rfl
  | cons c chars ih =>
    rw [doubleQuotes_cons]
    by_cases quote : c = '"'
    · subst quote
      show '"' :: unquoteChars (doubleQuotes chars) = _
      rw [ih]
    · rw [if_neg (by simpa using quote), List.singleton_append, unquoteChars]
      · rw [ih]
      · rintro rest rfl
        exact absurd rfl quote

theorem doubleQuotes_eq_self {chars : List Char} (noQuote : '"' ∉ chars) :
    doubleQuotes chars = chars := by
  induction chars with
  | nil => rfl
  | cons c chars ih =>
    have first : c ≠ '"' := fun same => noQuote (same ▸ List.mem_cons_self)
    rw [doubleQuotes_cons, if_neg (by simpa using first),
      ih fun member => noQuote (.tail c member)]
    rfl

/-- Doubled quotes close no string; the first quote that stands alone does. -/
theorem closing?_doubleQuotes {chars rest : List Char} (sameLine : '\n' ∉ chars)
    (single : rest.head? ≠ some '"') :
    closing? (doubleQuotes chars ++ '"' :: rest) = some (doubleQuotes chars, rest) := by
  induction chars with
  | nil => exact closing?_quote single
  | cons c chars ih =>
    have closed := ih fun member => sameLine (.tail c member)
    rw [doubleQuotes_cons]
    by_cases quote : c = '"'
    · subst quote
      show closing? ('"' :: '"' :: (doubleQuotes chars ++ '"' :: rest)) = _
      rw [closing?, closed]
      rfl
    · have first : c ≠ '\n' := fun same => sameLine (same ▸ List.mem_cons_self)
      rw [if_neg (by simpa using quote), List.append_assoc, List.singleton_append,
        closing?_other quote first, closed]
      rfl

/-! ## Strings of labels -/

/-- The text between the quotes of the string of a label. -/
def writtenLabel (label : String) : String :=
  String.ofList (doubleQuotes (foldLines label.toList))

theorem unquote_writtenLabel (label : String) : unquote (writtenLabel label) = onOneLine label := by
  rw [unquote, writtenLabel, String.toList_ofList, unquoteChars_doubleQuotes, onOneLine]

theorem unquote_eq_self {written : String} (noQuote : '"' ∉ written.toList) :
    unquote written = written := by
  have undone := unquoteChars_doubleQuotes written.toList
  rw [doubleQuotes_eq_self noQuote] at undone
  rw [unquote, undone, String.ofList_toList]

theorem newline_not_mem_quoteLabel (label : String) : '\n' ∉ (quoteLabel label).toList := by
  rw [quoteLabel, String.toList_ofList, List.cons_append, List.mem_cons, List.mem_append,
    List.mem_singleton]
  rintro (quote | inside | quote)
  · cases quote
  · exact newline_not_mem_foldLines _ (mem_of_mem_doubleQuotes inside)
  · cases quote

theorem lexFrom_quoteLabel (line : Nat) (label : String) {rest : List Char}
    (single : rest.head? ≠ some '"') :
    lexFrom line ((quoteLabel label).toList ++ rest) =
      ⟨.string (writtenLabel label), line⟩ :: lexFrom line rest := by
  rw [quoteLabel, String.toList_ofList, List.cons_append, List.cons_append, List.append_assoc]
  exact lexFrom_string (closing?_doubleQuotes (newline_not_mem_foldLines _) single)

end Codebook.Definition
