import Codebook.Definition.Reading
import Codebook.Proofs.Definition.Clause

/-!
# Items and blocks as they are written

`WrittenItem` and `WrittenBlock` hold what the writer of definition text lays out: an item with its
label and perhaps a bracket clause, and a header with the block of its items. For each there are its
lines, the lexemes that these lines have (`lexLines_lines`), and the tokens that a reader should make of
them. Every list that is written is such a sequence of items or of blocks.
-/

namespace Codebook.Definition

open Codebook.Text

/-! ## Lines of several entries -/

theorem length_withComma (lines : List String) : (withComma lines).length = lines.length := by
  fun_induction withComma lines with
  | case1 => rfl
  | case2 => rfl
  | case3 line rest _ ih => rw [List.length_cons, ih, List.length_cons]

theorem sameLine_withComma {lines : List String} (sameLine : ∀ text ∈ lines, '\n' ∉ text.toList) :
    ∀ text ∈ withComma lines, '\n' ∉ text.toList := by
  fun_induction withComma lines with
  | case1 => exact sameLine
  | case2 line =>
    intro text member
    rw [List.mem_singleton.1 member, String.toList_append, List.mem_append]
    rintro (inside | last)
    · exact sameLine line List.mem_cons_self inside
    · cases List.mem_singleton.1 last
  | case3 line rest _ ih =>
    intro text member
    rcases List.mem_cons.1 member with rfl | member
    · exact sameLine _ List.mem_cons_self
    · exact ih (fun text member => sameLine text (.tail _ member)) text member

theorem lexLines_withComma {lines : List String} (nonempty : lines ≠ [])
    (sameLine : ∀ text ∈ lines, '\n' ∉ text.toList) (line : Nat) :
    lexLines line (withComma lines) =
      lexLines line lines ++ [⟨.mark .comma, line + (lines.length - 1)⟩] := by
  fun_induction withComma lines generalizing line with
  | case1 => exact absurd rfl nonempty
  | case2 text =>
    have counts : text.toList.count '\n' = 0 :=
      List.count_eq_zero.2 (sameLine text List.mem_cons_self)
    have comma : lexFrom line [Mark.comma.char] = [⟨.mark .comma, line⟩] := by
      rw [lexFrom_mark, lexFrom_nil]
    rw [lexLines, lexLines, lexLines, lexLines, String.toList_append]
    show lexFrom line (text.toList ++ [Mark.comma.char]) ++ [] = _
    rw [lexFrom_append (isCut_mark .comma), counts, Nat.add_zero, comma, List.append_nil,
      List.append_nil, List.length_singleton, Nat.sub_self, Nat.add_zero]
  | case3 text rest more ih =>
    have nonemptyRest : rest ≠ [] := fun empty => more empty
    have below := ih nonemptyRest (fun text member => sameLine text (.tail _ member)) (line + 1)
    have last : line + 1 + (rest.length - 1) = line + ((text :: rest).length - 1) := by
      have := List.length_pos_iff.2 nonemptyRest
      rw [List.length_cons]
      omega
    rw [lexLines, lexLines, below, List.append_assoc, last]

/-! ## Headings -/

theorem isWord_name {code : String} (word : IsWord code) : IsWord ("_" ++ code) :=
  .append (by decide) word

theorem toList_heading (code label : String) :
    (heading code label).toList = ("_" ++ code).toList ++ ' ' :: (quoteLabel label).toList := by
  rw [heading, String.toList_append, String.toList_append, List.append_assoc]
  rfl

theorem sameLine_heading {code : String} (word : IsWord code) (label : String) :
    '\n' ∉ (heading code label).toList := by
  rw [toList_heading, List.mem_append, List.mem_cons]
  rintro (inside | blank | inside)
  · exact (isWord_name word).newline_not_mem inside
  · cases blank
  · exact newline_not_mem_quoteLabel label inside

theorem lexFrom_heading {code : String} (word : IsWord code) (label : String) (line : Nat)
    {rest : List Char} (single : rest.head? ≠ some '"') :
    lexFrom line ((heading code label).toList ++ rest) =
      ⟨.word ("_" ++ code), line⟩ :: ⟨.string (writtenLabel label), line⟩ :: lexFrom line rest := by
  have stop : ∀ c ∈ (' ' :: ((quoteLabel label).toList ++ rest)).head?, isWordChar c = false := by
    rintro c ⟨⟩
    decide
  rw [toList_heading, List.append_assoc, List.cons_append, lexFrom_isWord (isWord_name word) line stop,
    lexFrom_blank (by decide) (by decide), lexFrom_quoteLabel line label single]

/-! ## Items -/

/-- An item as it is written: its code, its label, and the key and the codes of its bracket clause if
it has one. -/
structure WrittenItem where
  code : String
  label : String
  clause : Option (String × List String)

namespace WrittenItem

/-- The lines of an item, the first one with a margin in front. -/
def lines (margin : String) (item : WrittenItem) : List String :=
  (margin ++ heading item.code item.label)
    :: (item.clause.elim [] fun (key, codes) => clauseLines key codes)

/-- The number of lines of an item. -/
def height (item : WrittenItem) : Nat :=
  item.clause.elim 1 fun _ => 4

/-- The properties that the bracket clause of an item stands for. -/
def properties (item : WrittenItem) : Properties :=
  item.clause.elim [] fun (key, codes) => [(key, propertyValue (unquote (codesValue codes)))]

/-- The token of an item whose first line has the given number. -/
def token (line : Nat) (item : WrittenItem) : Token :=
  .item item.code (onOneLine item.label) line item.properties

/-- The lexemes that follow the code of an item. -/
def bodyLexemes (line : Nat) (item : WrittenItem) : List Lexeme :=
  ⟨.string (writtenLabel item.label), line⟩
    :: (item.clause.elim [] fun (key, codes) =>
      [⟨.mark .openBracket, line + 1⟩, ⟨.word key, line + 2⟩, ⟨.mark .equals, line + 2⟩,
        ⟨.string (codesValue codes), line + 2⟩, ⟨.mark .closeBracket, line + 3⟩])

/-- The lexemes of an item whose first line has the given number. -/
def lexemes (line : Nat) (item : WrittenItem) : List Lexeme :=
  ⟨.word ("_" ++ item.code), line⟩ :: item.bodyLexemes line

/-- Whether an item can be read back: its code and its key are words, and its bracket clause has only
codes that may stand there. -/
structure IsReadable (item : WrittenItem) : Prop where
  code : IsWord item.code
  key : ∀ clause ∈ item.clause, IsWord clause.1
  enclosed : ∀ clause ∈ item.clause, ∀ code ∈ clause.2, IsEnclosed code

theorem lines_ne_nil (margin : String) (item : WrittenItem) : item.lines margin ≠ [] :=
  List.cons_ne_nil _ _

theorem length_lines (margin : String) (item : WrittenItem) :
    (item.lines margin).length = item.height := by
  rcases item with ⟨code, label, _ | clause⟩ <;> rfl

section Readable

variable {item : WrittenItem} (readable : item.IsReadable) {margin : String}
  (blank : ∀ c ∈ margin.toList, isBlank c = true) (marginLine : '\n' ∉ margin.toList)
include readable

include marginLine in
theorem sameLine_lines : ∀ text ∈ item.lines margin, '\n' ∉ text.toList := by
  intro text member
  rcases List.mem_cons.1 member with rfl | member
  · rw [String.toList_append, List.mem_append, not_or]
    exact ⟨marginLine, sameLine_heading readable.code item.label⟩
  cases present : item.clause with
  | none =>
    rw [present] at member
    cases member
  | some clause =>
    rw [present] at member
    exact sameLine_clauseLines (readable.key clause present) (readable.enclosed clause present) text member

include blank marginLine in
/-- The lines of an item have its lexemes. -/
theorem lexLines_lines (line : Nat) : lexLines line (item.lines margin) = item.lexemes line := by
  have first : lexFrom line (margin ++ heading item.code item.label).toList =
      [⟨.word ("_" ++ item.code), line⟩, ⟨.string (writtenLabel item.label), line⟩] := by
    rw [String.toList_append, lexFrom_blanks blank marginLine,
      ← List.append_nil (heading item.code item.label).toList,
      lexFrom_heading readable.code item.label line (by simp), lexFrom_nil]
  rw [lines, lexLines, first, lexemes, bodyLexemes]
  cases present : item.clause with
  | none => rfl
  | some clause =>
    have below := lexLines_clauseLines (readable.key clause present)
      (readable.enclosed clause present) (line + 1)
    rw [Option.elim_some, Option.elim_some, below]
    rfl

end Readable

end WrittenItem

/-! ## Blocks -/

/-- A header and the items in its block as they are written, and how the block ends. -/
structure WrittenBlock where
  code : String
  label : String
  items : List WrittenItem
  closing : BlockEnd

namespace WrittenBlock

/-- The line that ends a block. -/
def lastLine : BlockEnd → String
  | .group => "\x7d,"
  | .fix => "\x7d fix"

/-- The lines of a block and its header. -/
def lines (block : WrittenBlock) : List String :=
  [heading block.code block.label, "\x7b"] ++ joinEntries (block.items.map (WrittenItem.lines indent))
    ++ [lastLine block.closing]

/-- The number of lines of the items of a block. -/
def innerHeight (block : WrittenBlock) : Nat :=
  block.items.foldr (fun item total => item.height + total) 0

/-- The number of lines of a block and its header. -/
def height (block : WrittenBlock) : Nat :=
  block.innerHeight + 3

/-- The tokens of items of which the first stands on the given line. -/
def itemTokens (line : Nat) : List WrittenItem → List Token
  | [] => []
  | item :: rest => item.token line :: itemTokens (line + item.height) rest

/-- The tokens of a block whose header stands on the given line. -/
def tokens (line : Nat) (block : WrittenBlock) : List Token :=
  .headerOpen block.code (onOneLine block.label) line [] :: .blockOpen (line + 1)
    :: (itemTokens (line + 2) block.items
      ++ [.blockClose block.closing (line + 2 + block.innerHeight)])

/-- The tokens of blocks of which the first stands on the given line. -/
def tokensOf (line : Nat) : List WrittenBlock → List Token
  | [] => []
  | block :: rest => block.tokens line ++ tokensOf (line + block.height) rest

/-- Whether a block can be read back. -/
structure IsReadable (block : WrittenBlock) : Prop where
  code : IsWord block.code
  items : ∀ item ∈ block.items, item.IsReadable

end WrittenBlock

end Codebook.Definition
