import Codebook.Proofs.Catalog.RoundTrip
import Codebook.Proofs.Definition.Concatenation
import Codebook.Proofs.Definition.Opening
import Codebook.Proofs.Taxonomy.RoundTrip

/-!
# A fragment between entries

Where a list or a block is open, lexemes that are no entry and close what they open are skipped up to the
comma behind them, and nothing else is (`step_stray`). So a list with such a fragment on lines of its own
is read as the list without it: one token is added, and the tokens below it stand further down
(`tokenize_stray`).
-/

namespace Codebook.Definition

/-! ## Lexemes that close what they open -/

/-- Whether lexemes of a fragment belong to it to the last and close what is open: no comma stands outside
of all brackets and braces, and no brace is closed that is not open. -/
def ClosesAll (depth : Depth) : List Lexeme → Prop
  | [] => depth = ⟨0, 0⟩
  | l :: rest =>
    ¬(l.form = .mark .comma ∧ depth = ⟨0, 0⟩) ∧ ¬(l.form = .mark .closeBrace ∧ depth.curly = 0) ∧
      ClosesAll (depth.after l) rest

instance decidableClosesAll (depth : Depth) : DecidablePred (ClosesAll depth)
  | [] => inferInstanceAs (Decidable (depth = ⟨0, 0⟩))
  | l :: rest =>
    have := decidableClosesAll (depth.after l) rest
    inferInstanceAs (Decidable (_ ∧ _ ∧ ClosesAll (depth.after l) rest))

/-- A fragment that closes all ends at the comma behind it. -/
theorem ClosesAll.fragmentTail_comma {depth : Depth} {lexemes : List Lexeme}
    (closes : ClosesAll depth lexemes) (line : Nat) (more : List Lexeme) :
    fragmentTail depth (lexemes ++ ⟨.mark .comma, line⟩ :: more) = (lexemes, more) := by
  induction lexemes generalizing depth with
  | nil =>
    obtain rfl : depth = ⟨0, 0⟩ := closes
    rfl
  | cons l rest ih =>
    obtain ⟨noComma, noBrace, others⟩ := closes
    rw [List.cons_append, fragmentTail, if_neg (by simpa using noComma), if_neg (by simpa using noBrace),
      ih others]

/-- What opens and closes nothing leaves open what is open. -/
theorem ClosesAll.eq_of_flat {depth : Depth} {lexemes : List Lexeme} (closes : ClosesAll depth lexemes)
    (flat : ∀ l ∈ lexemes, l.IsFlat) : depth = ⟨0, 0⟩ := by
  induction lexemes with
  | nil => exact closes
  | cons l rest ih =>
    obtain ⟨first, others⟩ := List.forall_mem_cons.1 flat
    have below := closes.2.2
    rw [first depth] at below
    exact ih below others

theorem ClosesAll.down {depth : Depth} {lexemes : List Lexeme} (closes : ClosesAll depth lexemes)
    (lines : Nat) : ClosesAll depth (lexemes.map (Lexeme.down lines)) := by
  induction lexemes generalizing depth with
  | nil => exact closes
  | cons l rest ih => exact ⟨closes.1, closes.2.1, ih closes.2.2⟩

/-! ## Stray lexemes -/

/-- Whether lexemes are one fragment where an entry may stand: they begin with no separator and no entry,
and close what they open. -/
@[mk_iff]
structure IsStray (first : Lexeme) (rest : List Lexeme) : Prop where
  noSeparator : ¬first.IsSeparator
  noEntry : first.isCode = true → entryBody? rest = none
  closes : ClosesAll ⟨0, 0⟩ (first :: rest)

instance (first : Lexeme) (rest : List Lexeme) : Decidable (IsStray first rest) :=
  decidable_of_iff _ (isStray_iff first rest).symm

/-- The report of a fragment. -/
def strayToken (first : Lexeme) (rest : List Lexeme) : Token :=
  .malformed (" ".intercalate ((first :: rest).map Lexeme.text)) first.line

theorem strayToken_down (first : Lexeme) (rest : List Lexeme) (lines : Nat) :
    strayToken (first.down lines) (rest.map (Lexeme.down lines)) = (strayToken first rest).down lines := by
  rw [strayToken, ← List.map_cons, List.map_map]
  rfl

section Stray

variable {context : Context} {first : Lexeme} {rest : List Lexeme} (stray : IsStray first rest)
include stray

theorem IsStray.down (lines : Nat) : IsStray (first.down lines) (rest.map (Lexeme.down lines)) where
  noSeparator := stray.noSeparator
  noEntry code := by
    rw [entryBody?_down, stray.noEntry code]
    rfl
  closes := stray.closes.down lines

/-- What is no entry by itself is none in front of a comma: a bracket clause that might still go on would
have its bracket open. -/
theorem IsStray.entryBody?_comma (code : first.isCode = true) (line : Nat) (more : List Lexeme) :
    entryBody? (rest ++ ⟨.mark .comma, line⟩ :: more) = none := by
  rcases entryBody?_eq_none (stray.noEntry code) (⟨.mark .comma, line⟩ :: more) with fails | breaks
  · exact fails
  obtain ⟨name, written⟩ := Lexeme.exists_name_of_isCode code
  cases breaks with
  | code => rfl
  | clause label labelLine bracketLine flat =>
    have closes := stray.closes
    rw [written] at closes
    have inBracket : ClosesAll ⟨1, 0⟩ _ := closes.2.2.2.2.2.2
    cases inBracket.eq_of_flat flat

theorem skipFragment_stray (line : Nat) (more : List Lexeme) :
    skipFragment context first (rest ++ ⟨.mark .comma, line⟩ :: more) =
      ⟨[strayToken first rest], context, more⟩ := by
  have tail : ClosesAll (Depth.after ⟨0, 0⟩ first) rest := stray.closes.2.2
  rw [skipFragment, tail.fragmentTail_comma]
  rfl

/-- Where a list or a block is open, a fragment takes a step, with the comma behind it. -/
theorem step_stray (inside : context.isInside = true) (line : Nat) (more : List Lexeme) :
    step context first (rest ++ ⟨.mark .comma, line⟩ :: more) =
      ⟨[strayToken first rest], context, more⟩ := by
  by_cases code : first.isCode = true
  · rw [step_code context first _ code, readEntry, stray.entryBody?_comma code]
    exact skipFragment_stray stray line more
  · rw [step_fragment _ inside stray.noSeparator code]
    exact skipFragment_stray stray line more

theorem tokensFrom_stray (inside : context.isInside = true) (line : Nat) (more : List Lexeme) :
    tokensFrom context (first :: rest ++ ⟨.mark .comma, line⟩ :: more) =
      strayToken first rest :: tokensFrom context more := by
  rw [List.cons_append, tokensFrom_cons, step_stray stray inside]
  rfl

end Stray

/-! ## Entries with commas after them -/

/-- What is written in lists: an entry of a catalog, a category, a group of categories, and the local group
of a taxonomy. -/
inductive Piece where
  | entry (e : Entry)
  | category (c : Category)
  | group (g : Group)
  | locals (t : Taxonomy)

namespace Piece

/-- The lines of a piece with the comma after it; those of a group come with their comma. -/
def lines : Piece → List String
  | entry e => withComma (entryLines e)
  | category c => withComma (nodeLines c)
  | group g => groupLines g
  | locals t => withComma (localLines t.locals)

/-- The tokens of a piece whose first line has the given number. -/
def tokens (line : Nat) : Piece → List Token
  | entry e => [e.written.token line]
  | category c => [c.written.token line]
  | group g => g.written.tokens line
  | locals t => t.localBlock.tokens line

/-- Whether nothing in a piece but its labels is taken for structure: its codes are words, and the codes in
its bracket clauses stay inside of their strings. -/
def IsPlain : Piece → Prop
  | entry e => e.IsPlain
  | category c => c.IsPlain
  | group g => IsWord g.code ∧ ∀ c ∈ g.children, c.IsPlain
  | locals t => ∀ c ∈ t.locals, c.IsPlain

instance : DecidablePred IsPlain
  | entry e => inferInstanceAs (Decidable e.IsPlain)
  | category c => inferInstanceAs (Decidable c.IsPlain)
  | group g => inferInstanceAs (Decidable (IsWord g.code ∧ ∀ c ∈ g.children, c.IsPlain))
  | locals t => inferInstanceAs (Decidable (∀ c ∈ t.locals, c.IsPlain))

/-- The tokens of pieces of which the first stands on the given line. -/
def tokensOf (line : Nat) : List Piece → List Token
  | [] => []
  | p :: rest => p.tokens line ++ tokensOf (line + p.lines.length) rest

section Plain

variable {p : Piece} (plain : p.IsPlain)
include plain

theorem sameLine_lines : ∀ text ∈ p.lines, '\n' ∉ text.toList := by
  cases p with
  | entry e =>
    rw [lines, Entry.entryLines_eq]
    exact sameLine_withComma (WrittenItem.sameLine_lines (Entry.isReadable_written plain) (by decide))
  | category c =>
    rw [lines, Category.nodeLines_eq]
    exact sameLine_withComma (WrittenItem.sameLine_lines (Category.isReadable_written plain) (by decide))
  | group g =>
    rw [lines, Taxonomy.groupLines_eq]
    exact WrittenBlock.sameLine_lines (Taxonomy.isReadable_group plain.1 plain.2)
  | locals t =>
    rw [lines, Taxonomy.localLines_eq]
    exact sameLine_withComma (WrittenBlock.sameLine_lines (Taxonomy.isReadable_localBlock plain))

/-- A piece is read as its tokens wherever it stands, whatever follows. -/
theorem tokensFrom_lines (context : Context) (line : Nat) (rest : List Lexeme) :
    tokensFrom context (lexLines line p.lines ++ rest) = p.tokens line ++ tokensFrom context rest := by
  cases p with
  | entry e =>
    rw [lines, Entry.entryLines_eq]
    exact WrittenItem.tokensFrom_withComma (Entry.isReadable_written plain) (by decide) (by decide) line rest
  | category c =>
    rw [lines, Category.nodeLines_eq]
    exact WrittenItem.tokensFrom_withComma (Category.isReadable_written plain) (by decide) (by decide) line
      rest
  | group g =>
    rw [lines, Taxonomy.groupLines_eq]
    exact WrittenBlock.tokensFrom_lines (Taxonomy.isReadable_group plain.1 plain.2) context line rest
  | locals t =>
    have readable := Taxonomy.isReadable_localBlock plain
    have nonempty : t.localBlock.lines ≠ [] := by
      rw [← List.length_pos_iff, WrittenBlock.length_lines, WrittenBlock.height]
      omega
    rw [lines, Taxonomy.localLines_eq, lexLines_withComma nonempty (WrittenBlock.sameLine_lines readable),
      List.append_assoc, WrittenBlock.tokensFrom_lines readable, List.singleton_append,
      tokensFrom_passed (.inl rfl)]
    rfl

end Plain

section Pieces

variable {pieces : List Piece} (plain : ∀ p ∈ pieces, p.IsPlain)
include plain

theorem sameLine_flatMap_lines : ∀ text ∈ pieces.flatMap lines, '\n' ∉ text.toList := by
  intro text member
  obtain ⟨p, among, inside⟩ := List.mem_flatMap.1 member
  exact sameLine_lines (plain p among) text inside

theorem tokensFrom_flatMap_lines (context : Context) (line : Nat) (rest : List Lexeme) :
    tokensFrom context (lexLines line (pieces.flatMap lines) ++ rest) =
      tokensOf line pieces ++ tokensFrom context rest := by
  induction pieces generalizing line with
  | nil => rfl
  | cons p others ih =>
    obtain ⟨first, below⟩ := List.forall_mem_cons.1 plain
    rw [List.flatMap_cons, lexLines_append, List.append_assoc, tokensFrom_lines first, ih below, tokensOf,
      List.append_assoc]

end Pieces

/-! ## Lists of pieces -/

/-- The text of a list with the given lines in its frame. -/
def listText (name : String) (lines : List String) : String :=
  "\n".intercalate (opening name ++ lines ++ [ending])

/-- The tokens of the last pieces of a list, and of its end. -/
def lastTokens (line : Nat) (pieces : List Piece) : List Token :=
  tokensOf line pieces ++ [.listClose (line + (pieces.flatMap lines).length)]

theorem tokensFrom_last {pieces : List Piece} (plain : ∀ p ∈ pieces, p.IsPlain) (line : Nat) :
    tokensFrom ⟨true, []⟩ (lexLines line (pieces.flatMap lines ++ [ending])) = lastTokens line pieces := by
  have closed (line : Nat) : tokensFrom ⟨true, []⟩ (lexLines line [ending]) = [.listClose line] := by
    rw [← List.append_nil (lexLines _ [ending]), tokensFrom_ending, tokensFrom_nil]
    rfl
  rw [lexLines_append, tokensFrom_flatMap_lines plain, closed, lastTokens]

/-- A list is opened and its first pieces are read, whatever stands in the lines below them. -/
theorem tokenize_listText {name : String} (word : IsWord name) (noCode : name.toList.head? ≠ some '_')
    {before : List Piece} (plain : ∀ p ∈ before, p.IsPlain) (below : List String) :
    tokenize (listText name (before.flatMap lines ++ below)) =
      .listOpen name 1 :: (tokensOf 3 before ++ tokensFrom ⟨true, []⟩
        (lexFrom (3 + (before.flatMap lines).length) ("\n".intercalate (below ++ [ending])).toList)) := by
  rw [listText, tokenize, lex, List.append_assoc, List.append_assoc,
    lexFrom_intercalate_append (sameLine_opening word) (by simp),
    lexFrom_intercalate_append (sameLine_flatMap_lines plain) (by simp), tokensFrom_opening word noCode,
    show 1 + (opening name).length = 3 from rfl, tokensFrom_flatMap_lines plain]

section Interrupted

variable {before after : List Piece} (plainBefore : ∀ p ∈ before, p.IsPlain)
  (plainAfter : ∀ p ∈ after, p.IsPlain)

include plainAfter in
theorem sameLine_last : ∀ text ∈ after.flatMap lines ++ [ending], '\n' ∉ text.toList := by
  intro text member
  rcases List.mem_append.1 member with member | member
  · exact sameLine_flatMap_lines plainAfter text member
  · rw [List.mem_singleton.1 member]
    decide

include plainAfter in
/-- A fragment in a list is read as one token, and what is below it as if it stood further up. -/
theorem tokensFrom_interrupted {text : String} {first : Lexeme} {rest : List Lexeme}
    (lexemes : lex text = first :: rest) (stray : IsStray first rest) (above : Nat) :
    tokensFrom ⟨true, []⟩ (lexFrom (3 + above)
        ("\n".intercalate ([text, ","] ++ after.flatMap lines ++ [ending])).toList) =
      (strayToken first rest).down (2 + above)
        :: (lastTokens (3 + above) after).map (Token.down (text.toList.count '\n' + 2)) := by
  have fragment : lexFrom (3 + above) text.toList =
      first.down (2 + above) :: rest.map (Lexeme.down (2 + above)) := by
    rw [← List.map_cons, ← lexemes, lex, ← lexFrom_add, ← Nat.add_assoc]
  have comma (line : Nat) : lexFrom line ",".toList = [⟨.mark .comma, line⟩] :=
    (lexFrom_mark .comma).trans (by rw [lexFrom_nil])
  have below (line : Nat) : lexFrom line ("\n".intercalate ("," :: (after.flatMap lines ++ [ending]))).toList =
      ⟨.mark .comma, line⟩ :: lexLines (line + 1) (after.flatMap lines ++ [ending]) := by
    have single : ∀ text ∈ "," :: (after.flatMap lines ++ [ending]), '\n' ∉ text.toList :=
      List.forall_mem_cons.2 ⟨by decide, sameLine_last plainAfter⟩
    rw [lexFrom_intercalate single, lexLines, comma]
    rfl
  have moved : tokensFrom ⟨true, []⟩ (lexLines (3 + above + (text.toList.count '\n' + 2))
      (after.flatMap lines ++ [ending])) =
        (lastTokens (3 + above) after).map (Token.down (text.toList.count '\n' + 2)) := by
    rw [lexLines_add, ← tokensFrom_last plainAfter]
    exact tokensFrom_down _ ⟨true, []⟩ _
  show tokensFrom _ (lexFrom _ ("\n".intercalate
    (text :: "," :: (after.flatMap lines ++ [ending]))).toList) = _
  rw [lexFrom_intercalate_cons, fragment, below, tokensFrom_stray (stray.down _) rfl, strayToken_down,
    ← moved]
  rfl

include plainBefore plainAfter in
/-- A list with a fragment on lines of its own, and a comma below it, is read as the list without them: the
tokens above the fragment are the same, there is one token for the fragment, and the tokens below it are
the same but for their lines. -/
theorem tokenize_stray {name : String} (word : IsWord name) (noCode : name.toList.head? ≠ some '_')
    {text : String} {first : Lexeme} {rest : List Lexeme} (lexemes : lex text = first :: rest)
    (stray : IsStray first rest) :
    tokenize (listText name (before.flatMap lines ++ after.flatMap lines)) =
        .listOpen name 1
          :: (tokensOf 3 before ++ lastTokens (3 + (before.flatMap lines).length) after) ∧
      tokenize (listText name (before.flatMap lines ++ ([text, ","] ++ after.flatMap lines))) =
        .listOpen name 1
          :: (tokensOf 3 before
            ++ (strayToken first rest).down (2 + (before.flatMap lines).length)
            :: (lastTokens (3 + (before.flatMap lines).length) after).map
              (Token.down (text.toList.count '\n' + 2))) := by
  constructor
  · rw [tokenize_listText word noCode plainBefore, lexFrom_intercalate (sameLine_last plainAfter),
      tokensFrom_last plainAfter]
  · rw [tokenize_listText word noCode plainBefore,
      tokensFrom_interrupted plainAfter lexemes stray]

end Interrupted

/-- Pieces of each kind. -/
def various : List Piece :=
  [.entry ⟨"12", "Milk, \"fresh\"", ["7", "8"], false⟩, .category ⟨"7", "\x7d;", some "1000", []⟩,
    .group ⟨"800", "Beer", [⟨"801", "Ale", some "800", ["1", "2"]⟩]⟩,
    .locals ⟨"", [], [⟨"1001", "Mead", some "1000", ["1"]⟩]⟩]

/-- A bracket clause that fails on its second line, and what stands in braces behind it. -/
def unreadable : String :=
  "_9 \"Tea\" [ A = \"1\",\n= ] \x7b \"b\", c \x7d"

/-- The lexemes of the clause are one fragment, and all pieces around it are read. -/
theorem tokenize_stray_unreadable :
    ∃ first rest, lex unreadable = first :: rest ∧ IsStray first rest ∧ (∀ p ∈ various, p.IsPlain) ∧
      tokenize (listText "DRINKS"
          (various.flatMap lines ++ ([unreadable, ","] ++ various.flatMap lines))) =
        .listOpen "DRINKS" 1 :: (tokensOf 3 various
          ++ .malformed "_9 \"Tea\" [ A = \"1\" , = ] \x7b \"b\" , c \x7d" 23
            :: (lastTokens 23 various).map (Token.down 3)) := by
  have lexemes : lex unreadable = ⟨.word "_9", 1⟩ :: (lex unreadable).tail := by decide +kernel
  have stray : IsStray ⟨.word "_9", 1⟩ (lex unreadable).tail := by decide +kernel
  have plain : ∀ p ∈ various, p.IsPlain := by decide +kernel
  have token : (strayToken ⟨.word "_9", 1⟩ (lex unreadable).tail).down (2 + (various.flatMap lines).length) =
      .malformed "_9 \"Tea\" [ A = \"1\" , = ] \x7b \"b\" , c \x7d" 23 := by
    decide +kernel
  have height : 3 + (various.flatMap lines).length = 23 := by decide +kernel
  have moved : unreadable.toList.count '\n' + 2 = 3 := by decide +kernel
  have word : IsWord "DRINKS" := by decide
  obtain ⟨_, tokens⟩ := tokenize_stray plain plain word (by decide) lexemes stray
  rw [token, height, moved] at tokens
  exact ⟨_, _, lexemes, stray, plain, tokens⟩

end Piece

end Codebook.Definition
