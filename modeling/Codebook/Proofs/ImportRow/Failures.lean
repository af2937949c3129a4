import Codebook.Proofs.ImportRow.Blocks

/-!
# Texts that are not read

A text is not read for its first fragment where reading is strict, which is told to the user of a run, or for
an answer whose code is made of digits and is no number, which is not (`stops_of_parse`, `parse_escapes_iff`).
Of blocks the first one that is not read is the reason (`parseBlocks_eq_error_iff`).
-/

namespace Codebook.ImportRow

open Definition

/-! ## Texts -/

/-- Whether reading stops at the fragments of a text. -/
def StopsAtFragment (reading : Reading) (text : String) : Prop :=
  reading.strict = true ∧ fragmentsOf reading (tokenize text) ≠ []

/-- Whether a text has an answer whose code is made of digits and is no number. -/
def HasUnreadCode (reading : Reading) (text : String) : Prop :=
  ∃ row ∈ unplaced reading (tokenize text), row.isHeader = false ∧ ¬HasNumber row.code

section Texts

variable {reading : Reading} {text : String}

theorem fragmentsOf_eq_nil (goesOn : ¬StopsAtFragment reading text) (strict : reading.strict = true) :
    fragmentsOf reading (tokenize text) = [] := by
  by_contra nonempty
  exact goesOn ⟨strict, nonempty⟩

theorem parse_of_fragment (strict : reading.strict = true) {first : Fragment} {rest : List Fragment}
    (stops : fragmentsOf reading (tokenize text) = first :: rest) :
    (parse reading text).outcome = .error (.malformedFragment first.line first.text) := by
  rw [parse, outcome_ofTokens, outcome_setAside, strict, stops]
  rfl

theorem parse_of_unreadCode (goesOn : ¬StopsAtFragment reading text)
    (unread : HasUnreadCode reading text) : ∃ e, (parse reading text).outcome = .error (.numeral e) := by
  have passed := setAside_eq_ok_iff.2 (fragmentsOf_eq_nil goesOn)
  rw [parse, outcome_ofTokens, passed]
  cases made : place (unplaced reading (tokenize text)) with
  | error e => exact ⟨e, rfl⟩
  | ok rows =>
    obtain ⟨row, member, answer, unnumbered⟩ := unread
    exact absurd ((place_eq_ok_iff.1 made).1 row member answer) unnumbered

theorem parse_of_read (goesOn : ¬StopsAtFragment reading text) (read : ¬HasUnreadCode reading text) :
    (parse reading text).outcome =
      .ok ⟨placed (unplaced reading (tokenize text)), fragmentsOf reading (tokenize text)⟩ := by
  refine ofTokens_eq_ok_iff.2 ⟨fragmentsOf_eq_nil goesOn, fun row member answer => ?_, rfl⟩
  by_contra unnumbered
  exact read ⟨row, member, answer, unnumbered⟩

/-- A text is read exactly if no fragment stops the reading and the codes of the answers can be read. -/
theorem exists_parse_iff (reading : Reading) (text : String) :
    (∃ parsed, (parse reading text).outcome = .ok parsed) ↔
      ¬StopsAtFragment reading text ∧ ¬HasUnreadCode reading text := by
  refine ⟨fun ⟨parsed, ok⟩ => ⟨fun ⟨strict, nonempty⟩ => ?_, fun ⟨row, member, answer, unnumbered⟩ => ?_⟩,
    fun ⟨goesOn, read⟩ => ⟨_, parse_of_read goesOn read⟩⟩
  · exact nonempty ((ofTokens_eq_ok_iff.1 ok).1 strict)
  · exact unnumbered ((ofTokens_eq_ok_iff.1 ok).2.1 row member answer)

/-- The failure that is told is the first fragment, where reading is strict. -/
theorem stops_of_parse {failure : Failure} (failed : (parse reading text).outcome = .error failure)
    (told : failure.issueKind?.isSome = true) :
    reading.strict = true ∧ ∃ first rest, fragmentsOf reading (tokenize text) = first :: rest ∧
      failure = .malformedFragment first.line first.text := by
  by_cases stops : StopsAtFragment reading text
  · obtain ⟨strict, nonempty⟩ := stops
    obtain ⟨first, rest, split⟩ := List.exists_cons_of_ne_nil nonempty
    cases failed.symm.trans (parse_of_fragment strict split)
    exact ⟨strict, first, rest, split, rfl⟩
  by_cases unread : HasUnreadCode reading text
  · obtain ⟨e, other⟩ := parse_of_unreadCode stops unread
    cases failed.symm.trans other
    cases told
  · cases failed.symm.trans (parse_of_read stops unread)

theorem malformed_contents (read : ∃ parsed, (parse reading text).outcome = .ok parsed) :
    (contents reading text).malformed = fragmentsOf reading (tokenize text) := by
  obtain ⟨parsed, ok⟩ := read
  rw [contents_of_ok ok]
  obtain ⟨_, _, rfl⟩ := ofTokens_eq_ok_iff.1 ok
  rfl

end Texts

/-! ## Blocks -/

section Blocks

variable {reading : Reading} {workbook : String} {blocks : List Block} {failure : Failure}

/-- A block with its name, as blocks are read one by one. -/
def namedBlock (reading : Reading) (workbook : String) (block : Block) : Report (String × Parsed) := do
  return (block.name, ← parseBlock reading workbook block)

theorem outcome_namedBlock (reading : Reading) (workbook : String) (block : Block) :
    (namedBlock reading workbook block).outcome =
      (parse reading block.text).outcome.map (block.name, ·) := by
  rw [namedBlock, Report.outcome_bind, outcome_parseBlock]
  rfl

theorem namedBlock_eq_error_iff {block : Block} :
    (namedBlock reading workbook block).outcome = .error failure ↔
      (parse reading block.text).outcome = .error failure := by
  rw [outcome_namedBlock]
  cases (parse reading block.text).outcome <;> simp [Except.map]

theorem exists_namedBlock_iff {block : Block} :
    (∃ pair, (namedBlock reading workbook block).outcome = .ok pair) ↔
      ∃ parsed, (parse reading block.text).outcome = .ok parsed := by
  rw [outcome_namedBlock]
  cases (parse reading block.text).outcome <;> simp [Except.map]

theorem issues_namedBlock (reading : Reading) (workbook : String) (block : Block) :
    (namedBlock reading workbook block).journal.issues =
      (contents reading block.text).malformed.map (Fragment.issue workbook block.name) := by
  rw [namedBlock, Report.issues_bind_pure, issues_parseBlock]

theorem parseBlocks_eq (reading : Reading) (workbook : String) (blocks : List Block) :
    parseBlocks reading workbook blocks =
      blocks.mapM (namedBlock reading workbook) >>= fun pairs => pure (Keyed.ofList pairs) := rfl

/-- Blocks are not read for the first one that is not. -/
theorem parseBlocks_eq_error_iff :
    (parseBlocks reading workbook blocks).outcome = .error failure ↔
      ∃ before block after, blocks = before ++ block :: after ∧
        (∀ earlier ∈ before, ∃ parsed, (parse reading earlier.text).outcome = .ok parsed) ∧
          (parse reading block.text).outcome = .error failure := by
  rw [parseBlocks_eq, Report.bind_eq_error_iff, or_iff_left (by rintro ⟨_, _, failed⟩; cases failed),
    Report.mapM_eq_error_iff]
  simp only [namedBlock_eq_error_iff, exists_namedBlock_iff]

/-- Where blocks are read, each of their texts is, and each fragment of them is noted. -/
theorem read_of_parseBlocks {parsed : Keyed String Parsed}
    (ok : (parseBlocks reading workbook blocks).outcome = .ok parsed) :
    (∀ block ∈ blocks, ∃ parsed, (parse reading block.text).outcome = .ok parsed) ∧
      (parseBlocks reading workbook blocks).journal.issues = blocks.flatMap fun b =>
        (fragmentsOf reading (tokenize b.text)).map (Fragment.issue workbook b.name) := by
  have all : ∀ block ∈ blocks, ∃ parsed, (parse reading block.text).outcome = .ok parsed := by
    rw [parseBlocks_eq] at ok
    obtain ⟨pairs, each, _⟩ := Report.exists_of_bind_ok ok
    rw [Report.outcome_mapM] at each
    exact fun block member => exists_namedBlock_iff.1 (Report.exists_of_mapM each block member)
  refine ⟨all, ?_⟩
  rw [issues_parseBlocks ok]
  exact List.flatMap_congr fun b member => by rw [malformed_contents (all b member)]

/-- What is noted about blocks that are not all read is what the fragments of those before the first one that
is not read give. -/
theorem issues_parseBlocks_of_error {before after : List Block} {block : Block}
    (earlier : ∀ b ∈ before, ∃ parsed, (parse reading b.text).outcome = .ok parsed)
    (failed : (parse reading block.text).outcome = .error failure) :
    (parseBlocks reading workbook (before ++ block :: after)).journal.issues =
      before.flatMap fun b =>
        (fragmentsOf reading (tokenize b.text)).map (Fragment.issue workbook b.name) := by
  have named : ∀ b ∈ before, ∃ pair, (namedBlock reading workbook b).outcome = .ok pair :=
    fun b member => exists_namedBlock_iff.2 (earlier b member)
  have silent : (contents reading block.text).malformed = [] := by
    rw [contents, failed]
    rfl
  rw [parseBlocks_eq, Report.issues_bind_pure,
    Report.issues_mapM_of_error named (namedBlock_eq_error_iff.2 failed), issues_namedBlock, silent,
    List.map_nil, List.append_nil]
  refine List.flatMap_congr fun b member => ?_
  rw [issues_namedBlock, malformed_contents (earlier b member)]

end Blocks

end Codebook.ImportRow
