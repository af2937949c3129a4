import Codebook.Proofs.Definition.ReadBack
import Codebook.Proofs.ImportRow.Reading

/-!
# Rows of what is written

Each header and each item that is written gives one row, in the order of the text, and nothing that is
written is a fragment.
-/

namespace Codebook.Definition

open ImportRow

variable (alcoholic : List String)

/-- The row that an item is read as. -/
def WrittenItem.row (entry : WrittenItem) : ImportRow :=
  item entry.code (onOneLine entry.label) entry.properties

/-- The rows that a header and the items of its block are read as. -/
def WrittenBlock.rows (block : WrittenBlock) : List ImportRow :=
  header alcoholic block.code (onOneLine block.label) [] :: block.items.map WrittenItem.row

namespace WrittenBlock

theorem found_itemTokens (line : Nat) (items : List WrittenItem) :
    (found alcoholic (itemTokens line items)).map Prod.fst = items.map WrittenItem.row := by
  induction items generalizing line with
  | nil => rfl
  | cons entry rest ih =>
    rw [itemTokens, WrittenItem.token, found_item, List.map_cons, ih, List.map_cons, WrittenItem.row]

theorem found_tokens (line : Nat) (block : WrittenBlock) :
    (found alcoholic (block.tokens line)).map Prod.fst = block.rows alcoholic := by
  have brace (line : Nat) (rest : List Token) :
      found alcoholic (.blockOpen line :: rest) = found alcoholic rest := rfl
  have last (line : Nat) : found alcoholic [.blockClose block.closing line] = [] := rfl
  rw [tokens, found_headerOpen, brace, found_append, last, List.append_nil, List.map_cons,
    found_itemTokens, rows]

theorem found_tokensOf (line : Nat) (blocks : List WrittenBlock) :
    (found alcoholic (tokensOf line blocks)).map Prod.fst = blocks.flatMap (rows alcoholic) := by
  induction blocks generalizing line with
  | nil => rfl
  | cons block rest ih =>
    rw [tokensOf, found_append, List.map_append, found_tokens, ih, List.flatMap_cons]

theorem fragmentOf?_itemTokens (line : Nat) (items : List WrittenItem) :
    (itemTokens line items).filterMap fragmentOf? = [] := by
  induction items generalizing line with
  | nil => rfl
  | cons item rest ih => exact ih (line + item.height)

theorem fragmentOf?_tokensOf (line : Nat) (blocks : List WrittenBlock) :
    (tokensOf line blocks).filterMap fragmentOf? = [] := by
  induction blocks generalizing line with
  | nil => rfl
  | cons block rest ih =>
    have inner := fragmentOf?_itemTokens (line + 2) block.items
    have first : (block.tokens line).filterMap fragmentOf? = [] := by
      show List.filterMap fragmentOf? (_ ++ _) = []
      rw [List.filterMap_append, inner]
      rfl
    rw [tokensOf, List.filterMap_append, first, ih, List.append_nil]

theorem any_isHeaderToken_itemTokens (line : Nat) (items : List WrittenItem) :
    (itemTokens line items).any isHeaderToken = false := by
  induction items generalizing line with
  | nil => rfl
  | cons item rest ih => exact ih (line + item.height)

/-- Wherever a header is written there is a token of a header. -/
theorem any_isHeaderToken_tokensOf (line : Nat) {blocks : List WrittenBlock} (nonempty : blocks ≠ []) :
    (tokensOf line blocks).any isHeaderToken = true := by
  cases blocks with
  | nil => exact absurd rfl nonempty
  | cons block rest => rfl

end WrittenBlock

/-! ## The frame of a list -/

section Frame

variable (name : String) (first last : Nat) (inner : List Token)

theorem found_frame : found alcoholic (.listOpen name first :: (inner ++ [.listClose last])) =
    found alcoholic inner := by
  have opened (rest : List Token) :
      found alcoholic (.listOpen name first :: rest) = found alcoholic rest := rfl
  have closed : found alcoholic [.listClose last] = [] := rfl
  rw [opened, found_append, closed, List.append_nil]

theorem fragmentOf?_frame :
    (.listOpen name first :: (inner ++ [.listClose last])).filterMap fragmentOf? =
      inner.filterMap fragmentOf? := by
  have opened (rest : List Token) :
      (Token.listOpen name first :: rest).filterMap fragmentOf? = rest.filterMap fragmentOf? := rfl
  have closed : [Token.listClose last].filterMap fragmentOf? = [] := rfl
  rw [opened, List.filterMap_append, closed, List.append_nil]

theorem any_isHeaderToken_frame :
    (.listOpen name first :: (inner ++ [.listClose last])).any isHeaderToken =
      inner.any isHeaderToken := by
  have opened (rest : List Token) :
      (Token.listOpen name first :: rest).any isHeaderToken = rest.any isHeaderToken := rfl
  have closed : [Token.listClose last].any isHeaderToken = false := rfl
  rw [opened, List.any_append, closed, Bool.or_false]

end Frame

end Codebook.Definition
