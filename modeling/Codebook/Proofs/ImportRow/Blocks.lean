import Codebook.Proofs.ImportRow.Reading
import Codebook.Proofs.Keyed

/-!
# Rows and issues of blocks

Blocks are read one by one, and what is noted about their fragments does not change their rows
(`outcome_parseBlocks`). A text is read without an issue; a block leaves one issue for each of its
fragments, in their order, and blocks leave theirs one after the other (`issues_parseBlocks`).
-/

namespace Codebook.ImportRow

open Definition

/-! ## Rows of blocks -/

theorem outcome_parseBlock (reading : Reading) (workbook : String) (block : Block) :
    (parseBlock reading workbook block).outcome = (parse reading block.text).outcome := by
  rw [parseBlock, Report.outcome_bind]
  cases made : (parse reading block.text).outcome with
  | error failure => rfl
  | ok parsed =>
    have noted : (parsed.malformed.forM (fragmentIssue workbook block.name)).outcome = .ok () :=
      Report.outcome_forM _ fun _ _ => rfl
    show Report.outcome _ = _
    split
    · rw [Report.outcome_bind, Report.outcome_event]
      show Report.outcome (_ >>= _) = _
      rw [Report.outcome_bind, noted]
      rfl
    · rw [Report.outcome_bind, noted]
      rfl

theorem outcome_parseBlocks (reading : Reading) (workbook : String) (blocks : List Block) :
    (parseBlocks reading workbook blocks).outcome =
      (blocks.mapM fun block => (parse reading block.text).outcome.map (block.name, ·)).map
        Keyed.ofList := by
  have each : (fun block => (parseBlock reading workbook block >>= fun parsed =>
      (pure (block.name, parsed) : Report (String × Parsed))).outcome) =
        fun block => (parse reading block.text).outcome.map (block.name, ·) := by
    funext block
    rw [Report.outcome_bind, outcome_parseBlock]
    rfl
  rw [parseBlocks, Report.outcome_bind, Report.outcome_mapM, each]
  rfl

/-- The rows under a name are those of a block with that name. -/
theorem exists_block_of_mem {reading : Reading} {workbook : String} {blocks : List Block}
    {parsed : Keyed String Parsed} (ok : (parseBlocks reading workbook blocks).outcome = .ok parsed)
    {name : String} {rows : Parsed} (member : (name, rows) ∈ parsed) :
    ∃ block ∈ blocks, block.name = name ∧ (parse reading block.text).outcome = .ok rows := by
  rw [outcome_parseBlocks] at ok
  cases made : blocks.mapM fun block => (parse reading block.text).outcome.map (block.name, ·) with
  | error failure =>
    rw [made] at ok
    cases ok
  | ok pairs =>
    rw [made] at ok
    cases ok
    obtain ⟨block, among, each⟩ := Report.exists_of_mem_mapM made (Keyed.mem_ofList member)
    cases read : (parse reading block.text).outcome with
    | error failure =>
      rw [read] at each
      cases each
    | ok parsed =>
      rw [read] at each
      cases each
      exact ⟨block, among, rfl, read⟩

/-- What a text is read as; a text that cannot be read is read as nothing. -/
def contents (reading : Reading) (text : String) : Parsed :=
  (parse reading text).outcome.toOption.getD ⟨[], []⟩

theorem contents_of_ok {reading : Reading} {text : String} {parsed : Parsed}
    (ok : (parse reading text).outcome = .ok parsed) : contents reading text = parsed := by
  rw [contents, ok]
  rfl

/-- Blocks are read exactly if each of their texts is, and then the last one with a name stands under it. -/
theorem parseBlocks_eq_ok_ofList_iff {reading : Reading} {workbook : String} {blocks : List Block}
    {parsed : Keyed String Parsed} :
    (parseBlocks reading workbook blocks).outcome = .ok parsed ↔
      (∀ block ∈ blocks, (parse reading block.text).outcome = .ok (contents reading block.text)) ∧
        parsed = Keyed.ofList (blocks.map fun block => (block.name, contents reading block.text)) := by
  have each : ∀ (block : Block) (pair : String × Parsed),
      (parse reading block.text).outcome.map (block.name, ·) = .ok pair ↔
        (parse reading block.text).outcome = .ok (contents reading block.text) ∧
          pair = (block.name, contents reading block.text) := by
    intro block pair
    cases made : (parse reading block.text).outcome with
    | error failure => exact ⟨nofun, nofun⟩
    | ok parsed =>
      rw [contents_of_ok made]
      exact ⟨fun same => ⟨rfl, (Except.ok.inj same).symm⟩, fun both => congrArg Except.ok both.2.symm⟩
  rw [outcome_parseBlocks]
  cases made : blocks.mapM fun block => (parse reading block.text).outcome.map (block.name, ·) with
  | error failure =>
    refine ⟨nofun, fun both => ?_⟩
    cases made.symm.trans ((Report.mapM_eq_ok_iff each).2 ⟨both.1, rfl⟩)
  | ok pairs =>
    obtain ⟨all, rfl⟩ := (Report.mapM_eq_ok_iff each).1 made
    exact ⟨fun same => ⟨all, (Except.ok.inj same).symm⟩, fun both => congrArg Except.ok both.2.symm⟩

/-- Blocks with names of their own are read exactly if each of their texts is, and then each stands under
its name. -/
theorem parseBlocks_eq_ok_iff {reading : Reading} {workbook : String} {blocks : List Block}
    (distinct : (blocks.map Block.name).Nodup) {parsed : Keyed String Parsed} :
    (parseBlocks reading workbook blocks).outcome = .ok parsed ↔
      (∀ block ∈ blocks, (parse reading block.text).outcome = .ok (contents reading block.text)) ∧
        parsed = blocks.map fun block => (block.name, contents reading block.text) := by
  have kept : Keyed.ofList (blocks.map fun block => (block.name, contents reading block.text)) =
      blocks.map fun block => (block.name, contents reading block.text) := by
    refine Keyed.ofList_eq_self ?_
    rw [List.map_map]
    exact distinct
  rw [parseBlocks_eq_ok_ofList_iff, kept]

/-! ## Issues of texts -/

theorem issues_setAside (strict : Bool) (fragments : List Fragment) :
    (setAside strict fragments).journal.issues = [] := by
  induction fragments with
  | nil => rfl
  | cons fragment rest ih =>
    cases strict with
    | true => rfl
    | false => exact Report.issues_bind_eq_nil rfl fun _ => ih

theorem issues_withLocalHeader (alcoholic : List String) (rows : List ImportRow) :
    (withLocalHeader alcoholic rows).journal.issues = [] := by
  rw [withLocalHeader]
  split <;> rfl

theorem issues_withOpenAnswer (rows : List ImportRow) : (withOpenAnswer rows).journal.issues = [] := by
  rw [withOpenAnswer]
  split <;> rfl

/-- A text is read without an issue. -/
theorem issues_parse (reading : Reading) (text : String) : (parse reading text).journal.issues = [] := by
  have placing (rows : List ImportRow) (fragments : List Fragment) :
      (Report.ofExcept ((place rows).mapError .numeral) >>= fun rows =>
        (pure ⟨rows, fragments⟩ : Report Parsed)).journal.issues = [] :=
    Report.issues_bind_eq_nil rfl fun _ => rfl
  rw [parse, ofTokens]
  refine Report.issues_bind_eq_nil (issues_setAside _ _) fun _ => ?_
  split
  · refine Report.issues_bind_eq_nil (issues_setAside _ _) fun _ => ?_
    refine Report.issues_bind_eq_nil (issues_withLocalHeader _ _) fun rows => ?_
    exact Report.issues_bind_eq_nil (issues_withOpenAnswer _) fun rows => placing _ _
  · exact placing _ _

/-! ## Issues of blocks -/

/-- The issue of a fragment. -/
def Fragment.issue (workbook list : String) (fragment : Fragment) : Issue :=
  ⟨workbook, list, fragment.line, "MALFORMED_BLOCK", "unparseable fragment: " ++ fragment.text⟩

theorem issues_parseBlock (reading : Reading) (workbook : String) (block : Block) :
    (parseBlock reading workbook block).journal.issues =
      (contents reading block.text).malformed.map (Fragment.issue workbook block.name) := by
  rw [parseBlock]
  cases made : (parse reading block.text).outcome with
  | error failure =>
    rw [Report.bind_of_error made, issues_parse, contents, made]
    rfl
  | ok parsed =>
    have noted : (parsed.malformed.forM (fragmentIssue workbook block.name)
        >>= fun _ => (pure parsed : Report Parsed)).journal.issues =
          parsed.malformed.map (Fragment.issue workbook block.name) :=
      (Report.issues_bind_pure _ fun _ => parsed).trans (Report.issues_forM _ _)
    rw [Report.bind_of_ok made, Report.issues_append, issues_parse, contents_of_ok made, ← noted,
      List.nil_append]
    show (Report.journal _).issues = _
    split <;> rfl

theorem issues_parseBlocks {reading : Reading} {workbook : String} {blocks : List Block}
    {parsed : Keyed String Parsed} (ok : (parseBlocks reading workbook blocks).outcome = .ok parsed) :
    (parseBlocks reading workbook blocks).journal.issues =
      blocks.flatMap fun block =>
        (contents reading block.text).malformed.map (Fragment.issue workbook block.name) := by
  rw [parseBlocks] at ok ⊢
  rw [Report.issues_bind_pure]
  cases made : (blocks.mapM fun block => do return (block.name, ← parseBlock reading workbook block) :
      Report (List (String × Parsed))).outcome with
  | error failure =>
    rw [Report.bind_of_error made] at ok
    cases ok
  | ok pairs =>
    rw [Report.issues_mapM made]
    simp only [Report.issues_bind_pure, issues_parseBlock]

end Codebook.ImportRow
