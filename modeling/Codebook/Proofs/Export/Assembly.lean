import Codebook.Export.Assembly
import Codebook.Proofs.ImportRow.Blocks
import Codebook.Proofs.ImportRow.Distinct

/-!
# Sheets of bundles

A sheet of a bundle holds the captions (`mem_captionArtifacts`), or else the distinct rows of one block
(`mem_tableArtifacts`): the rows of its text, placed (`recordsOf_completeRows`).
-/

namespace Codebook

/-! ## Cells of records -/

section Cells

variable (row : ImportRow)

theorem get?_record_position :
    row.record.get? "Position" = some (.number (.whole row.position)) := rfl

theorem get?_record_text : row.record.get? "Text" = some (.text row.text) := rfl

theorem get?_record_objectName : row.record.get? "Object Name" = some (.text row.objectName) := rfl

theorem get?_record_groupId : row.record.get? "Group ID" = some (.text row.groupId) := rfl

theorem get?_record_isHeader :
    row.record.get? "Display As Header" = some (.text (if row.isHeader then "1" else "0")) := rfl

end Cells

namespace Export

/-- Whether a record has a text in a column. -/
def HasText (column text : String) (record : Record) : Prop :=
  record.get? column = some (.text text)

/-- Whether a record has a position. -/
def StandsAt (position : Int) (record : Record) : Prop :=
  record.get? "Position" = some (.number (.whole position))

theorem hasText_text {row : ImportRow} {text : String} :
    HasText "Text" text row.record ↔ row.text = text := by
  rw [HasText, get?_record_text, Option.some.injEq, Cell.text.injEq]

theorem hasText_objectName {row : ImportRow} {name : String} :
    HasText "Object Name" name row.record ↔ row.objectName = name := by
  rw [HasText, get?_record_objectName, Option.some.injEq, Cell.text.injEq]

theorem hasText_groupId {row : ImportRow} {group : String} :
    HasText "Group ID" group row.record ↔ row.groupId = group := by
  rw [HasText, get?_record_groupId, Option.some.injEq, Cell.text.injEq]

theorem hasText_header {row : ImportRow} :
    HasText "Display As Header" "1" row.record ↔ row.isHeader = true := by
  rw [HasText, get?_record_isHeader, Option.some.injEq, Cell.text.injEq]
  cases row.isHeader <;> decide

theorem hasText_answer {row : ImportRow} :
    HasText "Display As Header" "0" row.record ↔ row.isHeader = false := by
  rw [HasText, get?_record_isHeader, Option.some.injEq, Cell.text.injEq]
  cases row.isHeader <;> decide

theorem standsAt_record {row : ImportRow} {position : Int} :
    StandsAt position row.record ↔ row.position = position := by
  rw [StandsAt, get?_record_position, Option.some.injEq, Cell.number.injEq, Number.whole.injEq]

/-! ## Sheets -/

theorem assemble_ifield_eq_ok_iff {plan : Plan} {known : Keyed String (List ImportRow)}
    {blocks : List Block} {bundle : Bundle} :
    (assemble plan .ifield known blocks).outcome = .ok bundle ↔
      ∃ rows, (completeRows plan known (blocks.filter (isTabular plan))).outcome = .ok rows ∧
        bundle = ⟨.ifield, plan.market, plan.country,
          tableArtifacts plan rows (blocks.filter (isTabular plan)) ++ captionArtifacts plan⟩ := by
  rw [assemble]
  simp only [Report.outcome_bind, Report.outcome_pure]
  cases (completeRows plan known (blocks.filter (isTabular plan))).outcome with
  | error failure => simp [bind, Except.bind]
  | ok rows => simp [bind, Except.bind, eq_comm]

/-- Whether rows can be placed: each has an object name made of a code, and the code of an answer can be
read. -/
def IsPlaceable (rows : List ImportRow) : Prop :=
  ∀ row ∈ rows, ∃ code, row.objectName = ImportRow.objectNameOf code ∧
    (row.isHeader = false → ImportRow.HasNumber code)

theorem IsPlaceable.placed {rows : List ImportRow} (placeable : IsPlaceable rows) :
    IsPlaceable (ImportRow.placed rows) := by
  intro row member
  obtain ⟨original, first, place, rfl⟩ := ImportRow.exists_of_mem_placed member
  exact placeable original first

/-- Where no rows are known before, the rows of a block are those of a text, placed. -/
theorem recordsOf_completeRows {plan : Plan} {blocks : List Block}
    {rows : Keyed String (List ImportRow)} (ok : (completeRows plan [] blocks).outcome = .ok rows)
    (block : Block) : ∃ unplaced, IsPlaceable unplaced ∧
      recordsOf rows block = (ImportRow.distinct (ImportRow.placed unplaced)).map ImportRow.record := by
  rw [recordsOf]
  cases known : rows.get? block.name with
  | none => exact ⟨[], nofun, rfl⟩
  | some found =>
    have member := Keyed.mem_of_get? known
    rw [completeRows, Report.outcome_bind] at ok
    cases read : (ImportRow.parseBlocks plan.reading plan.workbook
        (blocks.filter fun b => !Keyed.has ([] : Keyed String (List ImportRow)) b.name)).outcome with
    | error failure =>
      rw [read] at ok
      cases ok
    | ok parsed =>
      rw [read] at ok
      cases ok
      rcases Keyed.mem_putAll member with before | among
      · cases before
      obtain ⟨⟨name, p⟩, inside, same⟩ := List.mem_map.1 among
      cases same
      obtain ⟨source, _, _, made⟩ := ImportRow.exists_block_of_mem read inside
      obtain ⟨_, numbered, rfl⟩ := ImportRow.ofTokens_eq_ok_iff.1 made
      refine ⟨_, fun row among => ?_, rfl⟩
      obtain ⟨code, name⟩ := ImportRow.exists_code_of_mem_unplaced among
      exact ⟨code, name, ImportRow.code_eq name ▸ numbered row among⟩

/-- Where the rows of all blocks are known, none of them is read again. -/
theorem completeRows_of_known {plan : Plan} {known : Keyed String (List ImportRow)} {blocks : List Block}
    (all : ∀ block ∈ blocks, known.has block.name = true) :
    completeRows plan known blocks = pure known := by
  have none : (blocks.filter fun b => !known.has b.name) = [] := by
    refine List.filter_eq_nil_iff.2 fun block member => ?_
    rw [all block member]
    exact Bool.false_ne_true
  rw [completeRows, none]
  rfl

/-- Where the rows of all blocks that become tables are known, the tables are put together without a
failure or an issue. -/
theorem exists_assemble {plan : Plan} {known : Keyed String (List ImportRow)} {blocks : List Block}
    (all : ∀ block ∈ blocks, isTabular plan block = true → known.has block.name = true) :
    ∃ bundle, assemble plan .ifield known blocks = pure bundle := by
  have selected : ∀ block ∈ blocks.filter (isTabular plan), known.has block.name = true :=
    fun block member => all block (List.mem_filter.1 member).1 (List.mem_filter.1 member).2
  rw [assemble, completeRows_of_known selected]
  exact ⟨_, rfl⟩

theorem assemble_of_known {plan : Plan} {known : Keyed String (List ImportRow)} {blocks : List Block}
    (tabular : plan.tabular = none) (all : ∀ block ∈ blocks, known.has block.name = true) :
    assemble plan .ifield known blocks = pure ⟨.ifield, plan.market, plan.country,
      tableArtifacts plan known blocks ++ captionArtifacts plan⟩ := by
  have selected : blocks.filter (isTabular plan) = blocks := by
    refine List.filter_eq_self.2 fun block _ => ?_
    rw [isTabular, tabular]
  rw [assemble, selected, completeRows_of_known all]
  rfl

/-- Where each block makes an artifact of its own, that is the one found under the name of the block. -/
theorem get?_of_block (artifact : Block → Artifact) (suffix : String) {bundle : Bundle}
    {blocks : List Block} {more : List Artifact}
    (artifacts : bundle.artifacts = blocks.map artifact ++ more)
    (named : ∀ block, (artifact block).name = block.name ++ suffix)
    (distinct : (blocks.map Block.name).Nodup) {block : Block} (member : block ∈ blocks) :
    bundle.get? (block.name ++ suffix) = some (artifact block) := by
  have same : (fun a => a.name == block.name ++ suffix) ∘ artifact = fun b => b.name == block.name := by
    funext b
    rw [Function.comp_apply, named, Bool.eq_iff_iff, beq_iff_eq, beq_iff_eq, String.append_left_inj]
  rw [Bundle.get?, artifacts, List.find?_append, List.find?_map, same,
    Keyed.find?_of_nodup distinct member]
  rfl

/-- One block makes one table, combined or not. -/
theorem tableArtifacts_singleton (plan : Plan) (rows : Keyed String (List ImportRow)) (block : Block) :
    ∃ name, tableArtifacts plan rows [block] =
      [⟨name, .table (some ImportRow.columns) [(sheetTitle block.name, recordsOf rows block)]⟩] := by
  unfold tableArtifacts
  cases plan.combined with
  | true => exact ⟨_, rfl⟩
  | false => exact ⟨_, rfl⟩

theorem mem_tableArtifacts {plan : Plan} {rows : Keyed String (List ImportRow)} {blocks : List Block}
    {artifact : Artifact} (member : artifact ∈ tableArtifacts plan rows blocks)
    {columns : Option (List String)} {sheets : Keyed String (List Record)}
    (content : artifact.content = .table columns sheets) {sheet : String × List Record}
    (among : sheet ∈ sheets) : ∃ block ∈ blocks, sheet = (sheetTitle block.name, recordsOf rows block) := by
  unfold tableArtifacts at member
  simp only at member
  split at member
  · rw [List.mem_singleton.1 member] at content
    cases content
    obtain ⟨block, inside, same⟩ := List.mem_map.1 (Keyed.mem_ofList among)
    exact ⟨block, inside, same.symm⟩
  · obtain ⟨block, inside, rfl⟩ := List.mem_map.1 member
    cases content
    exact ⟨block, inside, List.mem_singleton.1 among⟩

theorem mem_captionArtifacts {plan : Plan} {artifact : Artifact}
    (member : artifact ∈ captionArtifacts plan) {columns : Option (List String)}
    {sheets : Keyed String (List Record)} (content : artifact.content = .table columns sheets)
    {sheet : String × List Record} (among : sheet ∈ sheets) {record : Record}
    (inside : record ∈ sheet.2) : ∃ entry, record = captionOf entry := by
  unfold captionArtifacts at member
  cases asked : plan.captions with
  | false =>
    rw [asked] at member
    cases member
  | true =>
    simp only [asked, if_true] at member
    split at member
    · cases member
    · rw [List.mem_singleton.1 member] at content
      cases content
      rw [List.mem_singleton.1 among, captions, List.mem_map] at inside
      obtain ⟨entry, _, same⟩ := inside
      exact ⟨entry, same.symm⟩

/-- A plan that makes a table of each list. -/
def separate : Plan where
  workbook := "codebook.xlsx"
  market := "GB"
  country := "Great Britain"
  catalogs := []
  combined := false
  captions := false
  tabular := none
  reading := ⟨[], false, none⟩

end Export

end Codebook
