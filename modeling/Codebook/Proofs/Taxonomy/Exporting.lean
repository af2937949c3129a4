import Codebook.Proofs.Export.Assembly
import Codebook.Proofs.Taxonomy.Writing

/-!
# The open answer of an exported taxonomy

The sheet of a taxonomy ends in the open answer, and no other record has its name, unless a category
that is kept has the code of the open answer for its header: that header is then the record with the
name, and the open answer is not exported (`exported_openAnswer_iff`).
-/

namespace Codebook

open Definition ImportRow Text

namespace Export

/-! ## The open answer among records -/

/-- Whether a record is the open answer: an answer with its name, its text and its settings. -/
structure IsOpenAnswerRecord (record : Record) : Prop where
  objectName : HasText "Object Name" openAnswerName record
  text : HasText "Text" openAnswerLabel record
  answer : HasText "Display As Header" "0" record
  settings : ∀ setting ∈ openAnswerSettings, HasText setting.1 setting.2 record

/-- Whether records end in the open answer, and no other record has its name. -/
def EndsInOpenAnswer (records : List Record) : Prop :=
  ∃ before last, records = before ++ [last] ∧ IsOpenAnswerRecord last ∧
    ∀ record ∈ before, ¬HasText "Object Name" openAnswerName record

theorem isOpenAnswerRecord_openAnswer (position : Int) (group : String) :
    IsOpenAnswerRecord ({ openAnswer with position := position, groupId := group } : ImportRow).record := by
  refine ⟨rfl, rfl, rfl, fun setting member => ?_⟩
  simp only [openAnswerSettings, List.mem_cons, List.not_mem_nil, or_false] at member
  rcases member with rfl | rfl | rfl | rfl | rfl | rfl <;> rfl

/-- Rows with the open answer after them are exported with the open answer at the end where none of them
has its name. Where one has and each that has is a header, the record with the name is a header. -/
theorem endsInOpenAnswer_or {rows : List ImportRow}
    (headers : ∀ row ∈ rows, row.objectName = openAnswerName → row.isHeader = true) :
    (∀ row ∈ rows, row.objectName ≠ openAnswerName) ∧
        EndsInOpenAnswer ((distinct (placed (rows ++ [openAnswer]))).map ImportRow.record) ∨
      (∃ row ∈ rows, row.objectName = openAnswerName) ∧
        ∀ record ∈ (distinct (placed (rows ++ [openAnswer]))).map ImportRow.record,
          HasText "Object Name" openAnswerName record → HasText "Display As Header" "1" record := by
  rw [distinct_placed, placed_concat]
  generalize listed : (number rows).map (fun other =>
    { other with groupId := groupIdIn (placed (rows ++ [openAnswer])) other }) = earlier
  have origin : ∀ row ∈ earlier, ∃ original ∈ rows,
      row.objectName = original.objectName ∧ row.isHeader = original.isHeader := by
    intro row member
    rw [← listed] at member
    obtain ⟨numbered, among, rfl⟩ := List.mem_map.1 member
    obtain ⟨original, inside, place, rfl⟩ := exists_of_mem_number among
    exact ⟨original, inside, rfl, rfl⟩
  by_cases taken : ∃ row ∈ rows, row.objectName = openAnswerName
  · refine .inr ⟨taken, fun record among named => ?_⟩
    obtain ⟨row, member, rfl⟩ := List.mem_map.1 among
    have name := hasText_objectName.1 named
    -- A row before the open answer has the name, so the first row that has it is one of those.
    obtain ⟨other, inside, otherName⟩ := taken
    obtain ⟨place, numbered⟩ := exists_mem_number inside
    have present : ∃ early ∈ earlier, early.objectName = row.objectName := by
      rw [← listed, name]
      exact ⟨_, List.mem_map_of_mem numbered, otherName⟩
    obtain ⟨early, here, sameName⟩ := present
    have some : (earlier.find? fun other => other.objectName == row.objectName).isSome = true :=
      List.find?_isSome.2 ⟨early, here, beq_iff_eq.2 sameName⟩
    obtain ⟨first, found⟩ := Option.isSome_iff_exists.1 some
    have chosen := mem_firsts_iff.1 member
    rw [List.find?_append, found, Option.some_or, Option.some.injEq] at chosen
    subst chosen
    obtain ⟨original, among, nameKept, kindKept⟩ := origin first (List.mem_of_find?_eq_some found)
    exact hasText_header.2 (kindKept.trans (headers original among (nameKept.symm.trans name)))
  · have free : ∀ row ∈ rows, row.objectName ≠ openAnswerName :=
      fun row member name => taken ⟨row, member, name⟩
    have fresh : openAnswerName ∉ earlier.map ImportRow.objectName := by
      intro member
      obtain ⟨row, inside, name⟩ := List.mem_map.1 member
      obtain ⟨original, among, nameKept, _⟩ := origin row inside
      exact free original among (nameKept.symm.trans name)
    refine .inl ⟨free, ?_⟩
    rw [firsts_concat fresh, List.map_append]
    refine ⟨_, _, rfl, isOpenAnswerRecord_openAnswer _ _, fun record among named => ?_⟩
    obtain ⟨row, inside, rfl⟩ := List.mem_map.1 among
    have member := (firsts_sublist earlier).subset inside
    exact fresh (hasText_objectName.1 named ▸ List.mem_map_of_mem member)

/-- Records that end in the open answer do not have a header in its place. -/
theorem EndsInOpenAnswer.not_header {records : List Record} (ends : EndsInOpenAnswer records) :
    ¬∀ record ∈ records,
      HasText "Object Name" openAnswerName record → HasText "Display As Header" "1" record := by
  intro headers
  obtain ⟨before, last, rfl, closing, _⟩ := ends
  have header := headers last (List.mem_append_right _ List.mem_cons_self) closing.objectName
  have answer := closing.answer
  rw [HasText] at header answer
  rw [header, Option.some.injEq, Cell.text.injEq] at answer
  cases (show ("1" : String) ≠ "0" by decide) answer

end Export

namespace Taxonomy

open Export

/-! ## The rows of a taxonomy -/

/-- The records of a taxonomy. -/
def records (alcoholic : List String) (t : Taxonomy) : List Record :=
  (distinct (placed (t.rows alcoholic))).map ImportRow.record

/-- The rows of a taxonomy before the open answer. -/
def listedRows (alcoholic : List String) (t : Taxonomy) : List ImportRow :=
  t.groups.flatMap (Group.rows alcoholic)
    ++ header alcoholic localCode localLabel [] :: t.locals.map Category.row

theorem rows_eq_concat (alcoholic : List String) (t : Taxonomy) :
    t.rows alcoholic = t.listedRows alcoholic ++ [openAnswer] := by
  rw [rows, listedRows, List.append_assoc, List.cons_append]

theorem objectName_row (c : Category) : c.row.objectName = objectNameOf c.code :=
  item_objectName _ _ _

section Writable

variable {t : Taxonomy} (writable : t.IsWritable) (alcoholic : List String)
include writable

/-- Before the open answer only the header of a group can have its name. -/
theorem openAnswerName_mem_listedRows {row : ImportRow} (member : row ∈ t.listedRows alcoholic)
    (name : row.objectName = openAnswerName) :
    row.isHeader = true ∧ ∃ g ∈ t.groups, g.code = openAnswerCode := by
  have unreserved {c : Category} (among : c ∈ t.locals ∨ ∃ g ∈ t.groups, c ∈ g.children) :
      c.row.objectName ≠ openAnswerName := by
    rw [objectName_row, openAnswerName, ne_eq, objectNameOf_inj]
    exact (isWritable_category writable among).unreserved
  rcases List.mem_append.1 member with member | member
  · obtain ⟨g, group, inside⟩ := List.mem_flatMap.1 member
    rcases List.mem_cons.1 inside with rfl | inside
    · exact ⟨rfl, g, group, objectNameOf_inj.1 name⟩
    · obtain ⟨c, child, rfl⟩ := List.mem_map.1 inside
      exact absurd name (unreserved (.inr ⟨g, group, child⟩))
  · rcases List.mem_cons.1 member with rfl | inside
    · exact absurd (objectNameOf_inj.1 name) (by decide)
    · obtain ⟨c, child, rfl⟩ := List.mem_map.1 inside
      exact absurd name (unreserved (.inl child))

/-- The records of a taxonomy end in the open answer unless a group has its code. -/
theorem endsInOpenAnswer_or_header :
    (∀ g ∈ t.groups, g.code ≠ openAnswerCode) ∧ EndsInOpenAnswer (t.records alcoholic) ∨
      (∃ g ∈ t.groups, g.code = openAnswerCode) ∧ ∀ record ∈ t.records alcoholic,
        HasText "Object Name" openAnswerName record → HasText "Display As Header" "1" record := by
  have headers : ∀ row ∈ t.listedRows alcoholic, row.objectName = openAnswerName → row.isHeader = true :=
    fun row member name => (openAnswerName_mem_listedRows writable alcoholic member name).1
  have either := endsInOpenAnswer_or headers
  rw [← rows_eq_concat, ← records] at either
  rcases either with ⟨free, ends⟩ | ⟨⟨row, member, name⟩, header⟩
  · refine .inl ⟨fun g group code => ?_, ends⟩
    have listed : header alcoholic g.code (onOneLine g.label) [] ∈ t.listedRows alcoholic :=
      List.mem_append_left _ (List.mem_flatMap.2 ⟨g, group, List.mem_cons_self⟩)
    exact free _ listed (objectNameOf_inj.2 code)
  · exact .inr ⟨(openAnswerName_mem_listedRows writable alcoholic member name).2, header⟩

end Writable

/-! ## The table of a taxonomy -/

section Plan

variable {t : Taxonomy} (writable : t.IsWritable) {plan : Plan}
  (default : plan.reading.completed = none)
include writable default

theorem parse_reading :
    (parse plan.reading (renderTaxonomy t).text).outcome =
      .ok ⟨placed (t.rows plan.reading.alcoholic), []⟩ := by
  have parsed := outcome_parse_renderTaxonomy writable.isLegible plan.reading.alcoholic plan.reading.strict
  rw [← default, readRows_eq writable] at parsed
  exact parsed

theorem completeRows_renderTaxonomy :
    (completeRows plan [] [renderTaxonomy t]).outcome =
      .ok [(t.name, placed (t.rows plan.reading.alcoholic))] := by
  rw [completeRows, Report.outcome_bind]
  show (parseBlocks plan.reading plan.workbook [renderTaxonomy t]).outcome >>= _ = _
  rw [outcome_parseBlocks, List.mapM_cons, parse_reading writable default]
  rfl

/-- A taxonomy becomes one table with its records; the captions may follow. -/
theorem assemble_renderTaxonomy (tabular : isTabular plan (renderTaxonomy t) = true) :
    ∃ name, (assemble plan .ifield [] [renderTaxonomy t]).outcome =
      .ok ⟨.ifield, plan.market, plan.country,
        ⟨name, .table (some ImportRow.columns)
          [(sheetTitle t.name, t.records plan.reading.alcoholic)]⟩ :: captionArtifacts plan⟩ := by
  have selected : [renderTaxonomy t].filter (isTabular plan) = [renderTaxonomy t] := by
    rw [List.filter_cons_of_pos tabular, List.filter_nil]
  have records : recordsOf [(t.name, placed (t.rows plan.reading.alcoholic))] (renderTaxonomy t) =
      t.records plan.reading.alcoholic := by
    have known : Keyed.get? [(t.name, placed (t.rows plan.reading.alcoholic))] (renderTaxonomy t).name =
        some (placed (t.rows plan.reading.alcoholic)) := by
      rw [Keyed.get?_cons]
      exact if_pos rfl
    rw [recordsOf, known]
    rfl
  obtain ⟨name, table⟩ := tableArtifacts_singleton plan
    [(t.name, placed (t.rows plan.reading.alcoholic))] (renderTaxonomy t)
  rw [records] at table
  refine ⟨name, assemble_ifield_eq_ok_iff.2
    ⟨[(t.name, placed (t.rows plan.reading.alcoholic))], ?_, ?_⟩⟩
  · rw [selected]
    exact completeRows_renderTaxonomy writable default
  · rw [selected, table]
    rfl

end Plan

/-! ## The table of a category table -/

/-- A group with the code of the open answer comes from a category that is kept under it. -/
theorem openAnswerCode_mem_groups_iff {source : Source} {table : List Row} :
    (∃ g ∈ (taxonomyOf source table).groups, g.code = openAnswerCode) ↔
      ∃ c ∈ candidates source table, verdict c = .kept openAnswerCode := by
  constructor
  · rintro ⟨g, member, code⟩
    obtain ⟨entry, among, _, rfl⟩ := mem_groupsIn.1 (mem_inOrder.1 member)
    obtain ⟨c, candidate, header, kept, rfl⟩ := mem_keptRows.1 among
    obtain rfl : header = openAnswerCode := code
    exact ⟨c, candidate, kept⟩
  · rintro ⟨c, candidate, kept⟩
    have among := mem_keptRows.2 ⟨c, candidate, _, kept, rfl⟩
    exact ⟨_, mem_inOrder.2 (mem_groupsIn.2 ⟨_, among, rfl, rfl⟩), rfl⟩

/-- The records of a table end in the open answer exactly if no category is kept under a header with the
code of the open answer. -/
theorem endsInOpenAnswer_records_iff {source : Source} {table : List Row}
    (writable : HasWritableCodes source table) (alcoholic : List String) :
    EndsInOpenAnswer ((taxonomyOf source table).records alcoholic) ↔
      ¬∃ c ∈ candidates source table, verdict c = .kept openAnswerCode := by
  have readable := isWritable_taxonomyOf writable
  rcases endsInOpenAnswer_or_header readable alcoholic with ⟨free, ends⟩ | ⟨taken, headers⟩
  · refine iff_of_true ends fun kept => ?_
    obtain ⟨g, group, code⟩ := openAnswerCode_mem_groups_iff.2 kept
    exact free g group code
  · have kept := openAnswerCode_mem_groups_iff.1 taken
    exact iff_of_false (fun ends => ends.not_header headers) (not_not_intro kept)

/-- A table with writable codes is built, written and assembled, and its sheet ends in the open answer
exactly if no category is kept under a header with the code of the open answer. Under such a header the
sheet has no open answer: each record with its name is a header. -/
theorem exported_openAnswer_iff {source : Source} {table : List Row}
    (writable : HasWritableCodes source table) {workbook : Workbook} {sheet : String} {offset : Number}
    (loaded : Table.load workbook sheet offset = .ok source.containers) {plan : Plan}
    (default : plan.reading.completed = none)
    (tabular : ∀ lines, isTabular plan ⟨source.list, lines⟩ = true) :
    ∃ t bundle name records, (build source table).outcome = .ok t ∧
      (assemble plan .ifield [] [renderTaxonomy t]).outcome = .ok bundle ∧
      bundle.artifacts =
        ⟨name, .table (some ImportRow.columns) [(sheetTitle source.list, records)]⟩
          :: captionArtifacts plan ∧
      (EndsInOpenAnswer records ↔ ¬∃ c ∈ candidates source table, verdict c = .kept openAnswerCode) ∧
      (¬EndsInOpenAnswer records → ∀ record ∈ records,
        HasText "Object Name" openAnswerName record → HasText "Display As Header" "1" record) := by
  have built := build_ok writable (hasNumberedColumns_load loaded)
  have readable := isWritable_taxonomyOf writable
  obtain ⟨name, assembled⟩ := assemble_renderTaxonomy readable default (tabular _)
  refine ⟨_, _, name, _, built, assembled, rfl, endsInOpenAnswer_records_iff writable _, ?_⟩
  intro absent
  rcases endsInOpenAnswer_or_header readable plan.reading.alcoholic with ⟨_, ends⟩ | ⟨_, headers⟩
  · exact absurd ends absent
  · exact headers

/-- A sheet that flags one container for a category. -/
def flagged : Grid :=
  [[.empty, .empty, .empty, .text "Code", .text "Cider (1101)"],
    [.empty, .empty, .empty, .text "7", .text "yes"]]

/-- A source whose containers are those of the sheet. -/
def sole : Source :=
  ⟨"codebook.xlsx", "DIARY_GB", "diary", Table.rowsOf flagged⟩

/-- A category table with one category, whose header has the given code. -/
def soleCategory (header : String) : List Row :=
  [[("A", some "Label"), ("B", some "Code"), ("C", some "Definition")],
    [("A", some "Cider"), ("B", some "1101"), ("C", some "Diary"), ("D", some "Drinks"), ("E", some header)]]

theorem exported_openAnswer_sole :
    HasWritableCodes sole (soleCategory "1100") ∧
      Table.load [("Boxes", flagged)] "Boxes" (.whole 0) = .ok sole.containers ∧
      ∃ t bundle name records, (build sole (soleCategory "1100")).outcome = .ok t ∧
        (assemble separate .ifield [] [renderTaxonomy t]).outcome = .ok bundle ∧
        bundle.artifacts =
          [⟨name, .table (some ImportRow.columns) [(sheetTitle "DIARY_GB", records)]⟩] ∧
        EndsInOpenAnswer records := by
  have writable : HasWritableCodes sole (soleCategory "1100") := by decide +kernel
  have loaded : Table.load [("Boxes", flagged)] "Boxes" (.whole 0) = .ok sole.containers := rfl
  have free : ¬∃ c ∈ candidates sole (soleCategory "1100"), verdict c = .kept openAnswerCode := by
    decide +kernel
  obtain ⟨t, bundle, name, records, built, assembled, artifacts, ends, _⟩ :=
    @exported_openAnswer_iff _ _ writable _ _ _ loaded separate rfl fun _ => rfl
  exact ⟨writable, loaded, t, bundle, name, records, built, assembled, artifacts, ends.2 free⟩

/-- A category under a header with the code of the open answer keeps the open answer off the sheet. -/
theorem not_exported_openAnswer :
    HasWritableCodes sole (soleCategory openAnswerCode) ∧
      Table.load [("Boxes", flagged)] "Boxes" (.whole 0) = .ok sole.containers ∧
      ∃ t bundle name records, (build sole (soleCategory openAnswerCode)).outcome = .ok t ∧
        (assemble separate .ifield [] [renderTaxonomy t]).outcome = .ok bundle ∧
        bundle.artifacts =
          [⟨name, .table (some ImportRow.columns) [(sheetTitle "DIARY_GB", records)]⟩] ∧
        ¬EndsInOpenAnswer records := by
  have writable : HasWritableCodes sole (soleCategory openAnswerCode) := by decide +kernel
  have loaded : Table.load [("Boxes", flagged)] "Boxes" (.whole 0) = .ok sole.containers := rfl
  have kept : ∃ c ∈ candidates sole (soleCategory openAnswerCode), verdict c = .kept openAnswerCode := by
    decide +kernel
  obtain ⟨name, assembled⟩ :=
    @assemble_renderTaxonomy _ (isWritable_taxonomyOf writable) separate rfl rfl
  refine ⟨writable, loaded, _, _, name, _, build_ok writable (hasNumberedColumns_load loaded),
    assembled, rfl, fun ends => ?_⟩
  exact (endsInOpenAnswer_records_iff writable []).1 ends kept

end Taxonomy

end Codebook
