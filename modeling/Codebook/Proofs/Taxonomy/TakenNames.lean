import Codebook.Proofs.Taxonomy.Exporting

/-!
# Categories whose names are taken

Every category of a taxonomy is written and read back, but of the rows with one name only the first is
exported: a category keeps its record exactly if the first row with its name is an answer with its label
(`exported_category_iff`). The issues of building are those of the rows that it drops (`issues_build`), and
assembling adds none (`issues_assemble_renderTaxonomy`), so a category whose name is taken is lost without
an issue.
-/

namespace Codebook

open Definition ImportRow Text

namespace Export

/-! ## Answers among records -/

/-- Whether an answer with a name and a text is among records. -/
def HasAnswer (name text : String) (records : List Record) : Prop :=
  ∃ record ∈ records, HasText "Object Name" name record ∧ HasText "Display As Header" "0" record ∧
    HasText "Text" text record

/-- The number of answers among records. -/
def answerCount (records : List Record) : Nat :=
  records.countP fun record => record.get? "Display As Header" == some (.text "0")

theorem hasAnswer_iff_leads {rows : List ImportRow} {name text : String} :
    HasAnswer name text ((distinct (placed rows)).map ImportRow.record) ↔ Leads rows name text := by
  rw [← leads_placed]
  constructor
  · rintro ⟨record, among, named, answer, shown⟩
    obtain ⟨row, member, rfl⟩ := List.mem_map.1 among
    have first := mem_distinct.1 member
    rw [hasText_objectName.1 named] at first
    exact ⟨row, first, hasText_answer.1 answer, hasText_text.1 shown⟩
  · rintro ⟨row, first, answer, shown⟩
    have named : row.objectName = name := beq_iff_eq.1 (List.find?_some first :)
    have member : row ∈ distinct (placed rows) := mem_distinct.2 (by rwa [named])
    exact ⟨_, List.mem_map_of_mem member, hasText_objectName.2 named, hasText_answer.2 answer,
      hasText_text.2 shown⟩

theorem answerCount_map_record (rows : List ImportRow) :
    answerCount (rows.map ImportRow.record) = ImportRow.answerCount rows := by
  rw [answerCount, List.countP_map, ImportRow.answerCount]
  refine List.countP_congr fun row _ => ?_
  rw [Function.comp_apply, beq_iff_eq, Bool.not_eq_true', ← hasText_answer, HasText]

end Export

namespace Taxonomy

open Export

/-! ## The rows of a taxonomy -/

/-- The categories of a taxonomy, group by group and then the local ones. -/
def categories (t : Taxonomy) : List Category :=
  t.groups.flatMap Group.children ++ t.locals

theorem name_mem_rows {t : Taxonomy} {c : Category} (among : c ∈ t.categories) (alcoholic : List String) :
    objectNameOf c.code ∈ (t.rows alcoholic).map ImportRow.objectName := by
  rw [← objectName_row]
  refine List.mem_map_of_mem ?_
  rcases List.mem_append.1 among with inGroup | isLocal
  · obtain ⟨g, group, child⟩ := List.mem_flatMap.1 inGroup
    exact List.mem_append_left _ (List.mem_flatMap.2 ⟨g, group, .tail _ (List.mem_map_of_mem child)⟩)
  · exact List.mem_append_right _ (.tail _ (List.mem_append_left _ (List.mem_map_of_mem isLocal)))

/-- Where no header counts, those that count among the rows of a taxonomy are categories, and perhaps the
open answer. -/
theorem countP_rows {p : ImportRow → Bool} (headers : ∀ row, row.isHeader = true → p row = false)
    (alcoholic : List String) (t : Taxonomy) :
    (t.rows alcoholic).countP p =
      t.categories.countP (fun c => p c.row) + if p openAnswer then 1 else 0 := by
  have heading (code label : String) : ¬p (header alcoholic code label []) = true := by
    rw [headers _ rfl]
    exact Bool.false_ne_true
  have answers (categories : List Category) :
      (categories.map Category.row).countP p = categories.countP fun c => p c.row :=
    List.countP_map
  have groups : (t.groups.flatMap (Group.rows alcoholic)).countP p =
      (t.groups.flatMap Group.children).countP fun c => p c.row := by
    rw [List.countP_flatMap, List.countP_flatMap]
    refine congrArg List.sum (List.map_congr_left fun g _ => ?_)
    rw [Function.comp_apply, Function.comp_apply, Group.rows, List.countP_cons_of_neg (heading _ _), answers]
  rw [rows, List.countP_append, groups, List.countP_cons_of_neg (heading _ _), List.countP_append, answers,
    List.countP_singleton, categories, List.countP_append, Nat.add_assoc]

theorem answerCount_rows (alcoholic : List String) (t : Taxonomy) :
    ImportRow.answerCount (t.rows alcoholic) = t.categoryCount + 1 := by
  have all : t.categories.countP (fun c => !c.row.isHeader) = t.categoryCount := by
    have answers : ∀ c ∈ t.categories, (!c.row.isHeader) = true := fun c _ => by
      rw [Category.row, item_isHeader]
      rfl
    rw [List.countP_eq_length.2 answers, categories, List.length_append, categoryCount]
  rw [ImportRow.answerCount, countP_rows fun row kind => by rw [kind]; rfl, all]
  rfl

theorem answerCount_records_eq_iff {alcoholic : List String} {t : Taxonomy} :
    answerCount (t.records alcoholic) = t.categoryCount + 1 ↔ AnswersFirst (t.rows alcoholic) := by
  have all : ImportRow.answerCount (placed (t.rows alcoholic)) = t.categoryCount + 1 := by
    rw [answerCount_placed, answerCount_rows]
  rw [records, answerCount_map_record, distinct_placed, ← all, answerCount_firsts_eq_iff,
    answersFirst_placed]

/-! ## Issues -/

/-- The issue of a candidate that is dropped; the open answer is passed over without one. -/
def issueOf? (source : Source) (c : Candidate) : Option Issue :=
  match verdict c with
  | .unassigned =>
    some ⟨source.workbook, source.list, -1, "UNASSIGNED_CATEGORY",
      "category _" ++ c.code ++ " '" ++ c.label ++ "' has no parent header code"⟩
  | .clash =>
    some ⟨source.workbook, source.list, -1, "DUPLICATE_CODE",
      "category _" ++ c.code ++ " '" ++ c.label ++ "' clashes with the reserved _" ++ openAnswerCode
        ++ " '" ++ openAnswerLabel ++ "' entry"⟩
  | _ => none

/-- The issues of building: one for each candidate that is dropped, and one if nothing is kept. -/
def issuesOf (source : Source) (table : List Row) : List Issue :=
  (candidates source table).filterMap (issueOf? source)
    ++ if (taxonomyOf source table).isEmpty then
      [⟨source.workbook, source.list, -1, "EMPTY_TAXONOMY", "no diary categories found"⟩]
    else []

section Issues

variable {source : Source} {table : List Row}

theorem issues_keep {found : List Candidate} {kept : List (Category × String)}
    (ok : (keep source found).outcome = .ok kept) :
    (keep source found).journal.issues = found.filterMap (issueOf? source) := by
  induction found generalizing kept with
  | nil => rfl
  | cons c rest ih =>
    rw [keep] at ok ⊢
    rw [List.filterMap_cons, issueOf?]
    cases given : verdict c with
    | unassigned =>
      rw [given] at ok
      exact congrArg (List.cons _) (ih ok)
    | openAnswer =>
      rw [given] at ok
      exact ih ok
    | clash =>
      rw [given] at ok
      exact congrArg (List.cons _) (ih ok)
    | kept header =>
      rw [given] at ok
      obtain ⟨codes, held, ok⟩ := Report.exists_of_bind_ok ok
      obtain ⟨others, later, -⟩ := Report.exists_of_bind_ok ok
      simp only
      rw [Report.bind_of_ok held, Report.issues_append, Report.issues_bind_pure, ih later]
      rfl

/-- The issues of a taxonomy that is built are those of the candidates that are dropped. -/
theorem issues_build_of_ok {t : Taxonomy} (ok : (build source table).outcome = .ok t) :
    (build source table).journal.issues = issuesOf source table := by
  rw [build] at ok ⊢
  simp only [List.partition_eq_filter_filter] at ok ⊢
  obtain ⟨kept, first, ok⟩ := Report.exists_of_bind_ok ok
  obtain ⟨groups, sorted, ok⟩ := Report.exists_of_bind_ok ok
  have keptRows : (keep source (candidates source table)).outcome = .ok kept := first
  obtain rfl := (keep_eq_ok_iff.1 keptRows).2
  obtain rfl := (sortGroups_eq_ok_iff.1 (Report.eq_ok_of_mapError sorted)).2
  rw [Report.bind_of_ok first, Report.issues_append, Report.bind_of_ok sorted, Report.issues_append, issuesOf,
    ← issues_keep keptRows]
  refine congrArg _ ?_
  show (Report.journal (if (taxonomyOf source table).isEmpty then _ else _)).issues = _
  split <;> rfl

theorem issues_build (numbered : HasNumberedColumns source.containers)
    (writable : HasWritableCodes source table) :
    (build source table).journal.issues = issuesOf source table :=
  issues_build_of_ok (build_ok writable numbered)

end Issues

/-- What is assembled of a taxonomy leaves no issue. -/
theorem issues_assemble_renderTaxonomy {t : Taxonomy} (writable : t.IsWritable) {plan : Plan}
    (default : plan.reading.completed = none) (tabular : isTabular plan (renderTaxonomy t) = true) :
    (assemble plan .ifield [] [renderTaxonomy t]).journal.issues = [] := by
  have selected : [renderTaxonomy t].filter (isTabular plan) = [renderTaxonomy t] := by
    rw [List.filter_cons_of_pos tabular, List.filter_nil]
  have read := parse_reading writable default
  have parsed : ∃ parsed,
      (parseBlocks plan.reading plan.workbook [renderTaxonomy t]).outcome = .ok parsed := by
    rw [outcome_parseBlocks, List.mapM_cons, read]
    exact ⟨_, rfl⟩
  obtain ⟨_, ok⟩ := parsed
  have issues := issues_parseBlocks ok
  rw [List.flatMap_singleton, contents_of_ok read] at issues
  rw [assemble, Report.issues_bind_pure, selected, completeRows, Report.issues_bind_pure]
  exact issues

/-! ## Exported categories -/

/-- A table with writable codes is built, written and assembled. A category of it keeps its record exactly
if its name is not taken by a header or by a category with another label; there are as many answers as
categories, and the open answer, exactly if no category comes after a row with its name. The issues are
those of the rows that building drops, so there is none for a category that is lost. -/
theorem exported_category_iff {source : Source} {table : List Row}
    (writable : HasWritableCodes source table) {workbook : Workbook} {sheet : String} {offset : Number}
    (loaded : Table.load workbook sheet offset = .ok source.containers) {plan : Plan}
    (default : plan.reading.completed = none)
    (tabular : ∀ lines, isTabular plan ⟨source.list, lines⟩ = true) :
    ∃ t bundle name records, (build source table).outcome = .ok t ∧
      (assemble plan .ifield [] [renderTaxonomy t]).outcome = .ok bundle ∧
      bundle.artifacts =
        ⟨name, .table (some ImportRow.columns) [(sheetTitle source.list, records)]⟩
          :: captionArtifacts plan ∧
      (∀ c ∈ t.categories, (HasAnswer (objectNameOf c.code) (onOneLine c.label) records ↔
        ¬IsTaken (t.rows plan.reading.alcoholic) (objectNameOf c.code) (onOneLine c.label))) ∧
      (answerCount records = t.categoryCount + 1 ↔ AnswersFirst (t.rows plan.reading.alcoholic)) ∧
      (build source table).journal.issues ++ (assemble plan .ifield [] [renderTaxonomy t]).journal.issues =
        issuesOf source table := by
  have numbered := hasNumberedColumns_load loaded
  have built := build_ok writable numbered
  have readable := isWritable_taxonomyOf writable
  obtain ⟨name, assembled⟩ := assemble_renderTaxonomy readable default (tabular _)
  refine ⟨_, _, name, _, built, assembled, rfl, fun c among => ?_, answerCount_records_eq_iff, ?_⟩
  · rw [records, hasAnswer_iff_leads, leads_iff_not_isTaken (name_mem_rows among _)]
  · rw [issues_build numbered writable, issues_assemble_renderTaxonomy readable default (tabular _),
      List.append_nil]

/-- A category with a name of its own is exported, and so is the open answer. -/
theorem exported_category_sole :
    HasWritableCodes sole (soleCategory "1100") ∧
      Table.load [("Boxes", flagged)] "Boxes" (.whole 0) = .ok sole.containers ∧
      ∃ t bundle name records, (build sole (soleCategory "1100")).outcome = .ok t ∧
        (assemble separate .ifield [] [renderTaxonomy t]).outcome = .ok bundle ∧
        bundle.artifacts =
          [⟨name, .table (some ImportRow.columns) [(sheetTitle "DIARY_GB", records)]⟩] ∧
        answerCount records = t.categoryCount + 1 := by
  have writable : HasWritableCodes sole (soleCategory "1100") := by decide +kernel
  have loaded : Table.load [("Boxes", flagged)] "Boxes" (.whole 0) = .ok sole.containers := rfl
  obtain ⟨t, bundle, name, records, built, assembled, artifacts, _, count, _⟩ :=
    @exported_category_iff _ _ writable _ _ _ loaded separate rfl fun _ => rfl
  cases built.symm.trans (build_ok writable (hasNumberedColumns_load loaded))
  have first : AnswersFirst ((taxonomyOf sole (soleCategory "1100")).rows []) := by
    decide +kernel
  exact ⟨writable, loaded, _, bundle, name, records, built, assembled, artifacts, count.2 first⟩

/-- A category table with two categories of one code. -/
def twins : List Row :=
  [[("A", some "Label"), ("B", some "Code"), ("C", some "Definition")],
    [("A", some "Cider"), ("B", some "1101"), ("C", some "Diary"), ("D", some "Drinks"), ("E", some "1100")],
    [("A", some "Perry"), ("B", some "1101"), ("C", some "Diary"), ("D", some "Drinks"), ("E", some "1100")]]

/-- The second of two categories with one code is lost, and no issue says so. -/
theorem not_exported_twin :
    HasWritableCodes sole twins ∧
      Table.load [("Boxes", flagged)] "Boxes" (.whole 0) = .ok sole.containers ∧
      ∃ t bundle name records, (build sole twins).outcome = .ok t ∧
        (assemble separate .ifield [] [renderTaxonomy t]).outcome = .ok bundle ∧
        bundle.artifacts =
          [⟨name, .table (some ImportRow.columns) [(sheetTitle "DIARY_GB", records)]⟩] ∧
        (∃ c ∈ t.categories, ¬HasAnswer (objectNameOf c.code) (onOneLine c.label) records) ∧
        answerCount records ≠ t.categoryCount + 1 ∧
        (build sole twins).journal.issues
          ++ (assemble separate .ifield [] [renderTaxonomy t]).journal.issues = [] := by
  have writable : HasWritableCodes sole twins := by decide +kernel
  have loaded : Table.load [("Boxes", flagged)] "Boxes" (.whole 0) = .ok sole.containers := rfl
  have numbered := hasNumberedColumns_load loaded
  have readable := isWritable_taxonomyOf writable
  obtain ⟨name, assembled⟩ := @assemble_renderTaxonomy _ readable separate rfl rfl
  have none : issuesOf sole twins = [] := by decide +kernel
  have listed : (taxonomyOf sole twins).categories.map (fun c => (c.code, c.label)) =
      [("1101", "Cider"), ("1101", "Perry")] := by decide +kernel
  refine ⟨writable, loaded, _, _, name, _, build_ok writable numbered, assembled, rfl, ?_, ?_, ?_⟩
  · obtain ⟨c, among, shown⟩ := List.mem_map.1 (listed ▸ .tail _ List.mem_cons_self :
      ("1101", "Perry") ∈ (taxonomyOf sole twins).categories.map fun c => (c.code, c.label))
    obtain ⟨code, label⟩ := Prod.mk.inj shown
    refine ⟨c, among, ?_⟩
    rw [records, hasAnswer_iff_leads, code, label]
    decide +kernel
  · rw [ne_eq, answerCount_records_eq_iff]
    decide +kernel
  · rw [issues_build numbered writable, @issues_assemble_renderTaxonomy _ readable separate rfl rfl,
      List.append_nil, none]

end Taxonomy

end Codebook
