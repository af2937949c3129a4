import Codebook.Proofs.Catalog.RoundTrip
import Codebook.Proofs.Definition.Concatenation
import Codebook.Proofs.Taxonomy.RoundTrip

/-!
# The text of all lists

The definition text of all lists is read as the texts of the lists one by one (`tokenize_list_by_list`).
Each list that is written ends in the token that closes it, and so is read apart from those below it,
however the text above it was read.
-/

namespace Codebook

open Definition

namespace Block

/-- The blocks that are written of catalogs and of taxonomies. -/
inductive IsRendered : Block → Prop
  | catalog {c : Catalog} (plain : c.IsPlain) : IsRendered (renderCatalog c)
  | taxonomy {t : Taxonomy} (plain : t.IsPlain) : IsRendered (renderTaxonomy t)

/-- The tokens of blocks that are read one by one. The first one stands the given number of lines below
the first line, and each other one below the last line of the block in front of it and an empty line. -/
def tokensInTurn (above : Nat) : List Block → List Token
  | [] => []
  | block :: rest =>
    (tokenize block.text).map (Token.down above)
      ++ tokensInTurn (above + block.text.toList.count '\n' + 2) rest

/-- Whether the last token of a text closes a list. -/
def IsClosed (text : String) : Prop :=
  ∃ line, (tokenize text).getLast? = some (.listClose line)

theorem IsRendered.isClosed {block : Block} (rendered : block.IsRendered) : IsClosed block.text := by
  cases rendered with
  | catalog plain =>
    obtain ⟨line, tokens⟩ := Catalog.tokenize_renderCatalog plain
    exact ⟨line, by rw [tokens, ← List.cons_append, List.getLast?_concat]⟩
  | taxonomy plain =>
    obtain ⟨line, tokens⟩ := Taxonomy.tokenize_renderTaxonomy plain
    exact ⟨line, by rw [tokens, ← List.cons_append, List.getLast?_concat]⟩

theorem allText_cons_cons (block next : Block) (rest : List Block) :
    allText (block :: next :: rest) = block.text ++ "\n" ++ ("\n" ++ allText (next :: rest)) := by
  rw [allText, List.map_cons, List.map_cons, String.intercalate_cons_cons, allText, List.map_cons,
    show ("\n\n" : String) = "\n" ++ "\n" from rfl]
  simp only [String.append_assoc]

/-- Blocks that are closed are read one by one, also where their text stands further down. -/
theorem map_down_tokenize_allText {blocks : List Block} (closed : ∀ block ∈ blocks, IsClosed block.text)
    (above : Nat) :
    (tokenize (allText blocks)).map (Token.down above) = tokensInTurn above blocks := by
  induction blocks generalizing above with
  | nil =>
    have none : lex (allText []) = [] := lexFrom_nil
    rw [tokenize, none, tokensFrom_nil]
    rfl
  | cons block rest ih =>
    cases rest with
    | nil =>
      rw [allText, List.map_singleton, String.intercalate_singleton, tokensInTurn, tokensInTurn,
        List.append_nil]
    | cons next rest =>
      obtain ⟨line, last⟩ := closed block List.mem_cons_self
      have below := ih (fun other among => closed other (.tail _ among))
      have moved (lines more : Nat) : Token.down more ∘ Token.down lines = Token.down (lines + more) :=
        funext (Token.down_down lines more)
      have lines : 1 + (1 + block.text.toList.count '\n') + above =
          above + block.text.toList.count '\n' + 2 := by omega
      rw [allText_cons_cons, tokenize_append last, tokenize_newline, List.map_map, moved,
        List.map_append, List.map_map, moved, lines, below]
      rfl

/-- A text that closes its last list is read apart from the text on the next line; the lists that are
written are closed, so their text is read list by list. -/
theorem tokenize_list_by_list :
    (∀ above below : String, IsClosed above →
      tokenize (above ++ "\n" ++ below) =
        tokenize above ++ (tokenize below).map (Token.down (1 + above.toList.count '\n'))) ∧
    ∀ blocks : List Block, (∀ block ∈ blocks, block.IsRendered) →
      (∀ block ∈ blocks, IsClosed block.text) ∧
        tokenize (allText blocks) = tokensInTurn 0 blocks := by
  constructor
  · rintro above below ⟨line, last⟩
    exact tokenize_append last below
  · intro blocks rendered
    have closed : ∀ block ∈ blocks, IsClosed block.text :=
      fun block among => (rendered block among).isClosed
    have inTurn := map_down_tokenize_allText closed 0
    rw [show Token.down 0 = id from funext Token.down_zero, List.map_id] at inTurn
    exact ⟨closed, inTurn⟩

/-- A text with an entry that is not closed, a block outside of the lists, and a list at its end. -/
def damaged : String :=
  "MAIN \"\" define \x7b\n_1 \"a\" [x]\n_2 \"b\"\n\x7d;\n_3 \"c\" \x7b\n\x7d;\nREST \"\" define \x7b\n\x7d;"

/-- A catalog of images of which the first belongs to no category. -/
def images : Catalog where
  name := "IMAGE_GB"
  entries := [⟨"1099", "a \"b\"\n", [], true⟩, ⟨"_", "\x7d;", ["\x7d;"], true⟩]

/-- A damaged text is read apart from its copy, and a catalog apart from the taxonomy below it. -/
theorem tokenize_list_by_list_damaged :
    IsClosed damaged ∧
      tokenize (damaged ++ "\n" ++ damaged) =
        tokenize damaged ++ (tokenize damaged).map (Token.down 8) ∧
      (∀ block ∈ [renderCatalog images, renderTaxonomy Taxonomy.confusing], block.IsRendered) ∧
      tokenize (allText [renderCatalog images, renderTaxonomy Taxonomy.confusing]) =
        tokensInTurn 0 [renderCatalog images, renderTaxonomy Taxonomy.confusing] := by
  have closed : IsClosed damaged := ⟨8, by decide +kernel⟩
  have rendered : ∀ block ∈ [renderCatalog images, renderTaxonomy Taxonomy.confusing],
      block.IsRendered := by
    intro block member
    simp only [List.mem_cons, List.not_mem_nil, or_false] at member
    rcases member with rfl | rfl
    · exact .catalog (by decide +kernel)
    · exact .taxonomy (by decide +kernel)
  have lines : 1 + damaged.toList.count '\n' = 8 := by decide +kernel
  have apart := tokenize_list_by_list.1 damaged damaged closed
  rw [lines] at apart
  exact ⟨closed, apart, rendered, (tokenize_list_by_list.2 _ rendered).2⟩

end Block

end Codebook
