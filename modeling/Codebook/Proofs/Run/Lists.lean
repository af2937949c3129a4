import Codebook.Proofs.Catalog.Building
import Codebook.Proofs.ImportRow.Failures
import Codebook.Proofs.Run.Stages
import Codebook.Proofs.Taxonomy.TakenNames

/-!
# The lists of a run

Once the country is known, a run builds the catalogs and the taxonomy, and where the platform takes tables it
reads their definition texts. A list without an entry is told, with the warnings about the lists before it
(`empty_of_draft`). What is wrong with a sheet, with the number of a column or with the code of a header is not
(`draft_escapes_iff`). The tables are put together without a failure once the texts are read
(`finish_ifield_of_read`).
-/

namespace Codebook.Compilation

open Definition ImportRow Text

variable {settings : Settings} {workbook : Workbook} {file market : String}

/-! ## Catalogs -/

/-- How the rows of the sheet of a list become entries. -/
def shapeOf (list : ListSettings) : Catalog.Shape :=
  ⟨list.codeColumn, list.categoryStartColumn, list.imageList⟩

/-- Whether the sheet of a list has a row that gives an entry. -/
def HasEntry (settings : Settings) (workbook : Workbook) (list : ListSettings) : Prop :=
  ∃ table, Table.load workbook list.sheet settings.headerRowOffset = .ok table ∧
    Catalog.HasEntry (shapeOf list) table

/-- Whether the catalog of a list is not built, and not because the list is empty: its sheet makes no table,
or one with labels though the column of the codes has no name. -/
def IsFaulty (settings : Settings) (workbook : Workbook) (list : ListSettings) : Prop :=
  (∃ grid, workbook.get? list.sheet = some grid ∧ Table.Unloadable grid settings.headerRowOffset) ∨
    (¬∃ i : Int, list.codeColumn = .whole i ∧ 1 ≤ i ∧ i ≤ Column.greatest) ∧
      ∃ labels rows, Table.load workbook list.sheet settings.headerRowOffset = .ok (labels :: rows)

section Catalogs

variable {list : ListSettings}

section Loaded

variable {table : List Row}
  (loaded : Table.load workbook list.sheet settings.headerRowOffset = .ok table)
include loaded

theorem outcome_buildCatalog (file market : String) :
    (buildCatalog settings workbook file market list).outcome =
      (Catalog.build ⟨file, listName list.name market⟩ (shapeOf list) table).outcome := by
  rw [buildCatalog, loaded]
  show Report.outcome (Catalog.build _ (shapeOf list) table >>= _) = _
  rw [Report.outcome_bind]
  cases (Catalog.build ⟨file, listName list.name market⟩ (shapeOf list) table).outcome <;> rfl

theorem issues_buildCatalog (file market : String) :
    (buildCatalog settings workbook file market list).journal.issues =
      (Catalog.build ⟨file, listName list.name market⟩ (shapeOf list) table).journal.issues := by
  rw [buildCatalog, loaded]
  show (Report.journal (Catalog.build _ (shapeOf list) table >>= _)).issues = _
  exact Report.issues_bind_eq (fun _ => rfl) _

theorem numbered_of_load : ∀ row ∈ table, Catalog.IsNumbered row :=
  fun _ member _ among => Table.index_of_mem_load loaded member among

end Loaded

theorem exists_buildCatalog (has : HasEntry settings workbook list) (file market : String) :
    ∃ c, (buildCatalog settings workbook file market list).outcome = .ok c := by
  obtain ⟨table, loaded, has⟩ := has
  rw [outcome_buildCatalog loaded]
  exact Catalog.exists_build (numbered_of_load loaded) has

/-- What is loaded is not at fault, but for a column of codes without a name. -/
theorem isFaulty_iff_of_load {table : List Row}
    (loaded : Table.load workbook list.sheet settings.headerRowOffset = .ok table) :
    IsFaulty settings workbook list ↔
      table ≠ [] ∧ ¬∃ codeColumn, Column.nameOf list.codeColumn = .ok codeColumn := by
  rw [Column.exists_nameOf_iff]
  constructor
  · rintro (⟨grid, present, unloadable⟩ | ⟨unnamed, labels, rows, other⟩)
    · obtain ⟨failure, failed⟩ := (Table.load_fails_iff present).2 unloadable
      cases failed.symm.trans loaded
    · cases other.symm.trans loaded
      exact ⟨List.cons_ne_nil _ _, unnamed⟩
  · rintro ⟨nonempty, unnamed⟩
    obtain ⟨labels, rows, rfl⟩ := List.exists_cons_of_ne_nil nonempty
    exact .inr ⟨unnamed, labels, rows, loaded⟩

/-- A list whose sheet is there and that has no entry is empty, and nothing is noted, or it is at fault, which
is not told. -/
theorem buildCatalog_of_no_entry {grid : Grid} (present : workbook.get? list.sheet = some grid)
    (none : ¬HasEntry settings workbook list) (file market : String) :
    (¬IsFaulty settings workbook list ∧
      (buildCatalog settings workbook file market list).outcome =
        .error (.emptyList (listName list.name market)) ∧
      (buildCatalog settings workbook file market list).journal.issues = []) ∨
    IsFaulty settings workbook list ∧ (buildCatalog settings workbook file market list).Escapes := by
  cases loaded : Table.load workbook list.sheet settings.headerRowOffset with
  | error failure =>
    have unloadable := (Table.load_fails_iff present).1 ⟨failure, loaded⟩
    exact .inr ⟨.inl ⟨grid, present, unloadable⟩,
      Report.escapes_bind_iff.2 (.inl ⟨failure, loaded, Table.issueKind?_of_load present loaded⟩)⟩
  | ok table =>
    have noEntry : ¬Catalog.HasEntry (shapeOf list) table := fun has => none ⟨table, loaded, has⟩
    rw [isFaulty_iff_of_load loaded, outcome_buildCatalog loaded, issues_buildCatalog loaded]
    by_cases fault : table ≠ [] ∧ ¬∃ codeColumn, Column.nameOf list.codeColumn = .ok codeColumn
    · refine .inr ⟨fault, ?_⟩
      obtain ⟨labels, rows, rfl⟩ := List.exists_cons_of_ne_nil fault.1
      cases named : Column.nameOf list.codeColumn with
      | ok codeColumn => exact absurd ⟨codeColumn, named⟩ fault.2
      | error e =>
        have unnamed : Column.nameOf (shapeOf list).codeColumn = .error e := named
        refine ⟨.column e, ?_, rfl⟩
        rw [outcome_buildCatalog loaded, Catalog.build_of_unnamed unnamed]
        rfl
    · have named : table ≠ [] → ∃ codeColumn, Column.nameOf (shapeOf list).codeColumn = .ok codeColumn :=
        fun nonempty => not_not.1 fun unnamed => fault ⟨nonempty, unnamed⟩
      exact .inl ⟨fault, Catalog.build_of_no_entry (numbered_of_load loaded) noEntry named⟩

variable {grid : Grid} (present : workbook.get? list.sheet = some grid)
include present

theorem exists_buildCatalog_iff (file market : String) :
    (∃ c, (buildCatalog settings workbook file market list).outcome = .ok c) ↔
      HasEntry settings workbook list := by
  refine ⟨fun ⟨c, ok⟩ => ?_, fun has => exists_buildCatalog has file market⟩
  by_contra none
  rcases buildCatalog_of_no_entry present none file market with ⟨_, failed, _⟩ | ⟨_, escapes⟩
  · cases failed.symm.trans ok
  · exact Report.not_escapes_of_ok ok escapes

/-- The failure that is told is that of a list without an entry. -/
theorem empty_of_buildCatalog {failure : Failure}
    (failed : (buildCatalog settings workbook file market list).outcome = .error failure)
    (told : failure.issueKind?.isSome = true) :
    ¬HasEntry settings workbook list ∧ failure = .emptyList (listName list.name market) ∧
      (buildCatalog settings workbook file market list).journal.issues = [] := by
  have none : ¬HasEntry settings workbook list := by
    intro has
    obtain ⟨c, ok⟩ := exists_buildCatalog has file market
    cases failed.symm.trans ok
  rcases buildCatalog_of_no_entry present none file market with ⟨_, empty, quiet⟩ | ⟨_, other, same, untold⟩
  · cases empty.symm.trans failed
    exact ⟨none, rfl, quiet⟩
  · cases same.symm.trans failed
    rw [untold] at told
    cases told

end Catalogs

/-! ## All lists -/

/-- The warnings about lists, one list after the other. -/
def warningsOf (settings : Settings) (workbook : Workbook) (file market : String)
    (lists : List ListSettings) : List Issue :=
  lists.flatMap fun list => (buildCatalog settings workbook file market list).journal.issues

section Lists

variable {lists : List ListSettings}
  (present : ∀ list ∈ lists, ∃ grid, workbook.get? list.sheet = some grid)
include present

theorem exists_catalogs_iff (file market : String) :
    (∃ catalogs, (lists.mapM (buildCatalog settings workbook file market)).outcome = .ok catalogs) ↔
      ∀ list ∈ lists, HasEntry settings workbook list := by
  rw [Report.outcome_mapM]
  constructor
  · rintro ⟨catalogs, ok⟩ list member
    obtain ⟨_, sheet⟩ := present list member
    exact (exists_buildCatalog_iff sheet file market).1 (Report.exists_of_mapM ok list member)
  · intro all
    exact Report.exists_mapM_ok fun list member => exists_buildCatalog (all list member) file market

/-- Of lists the first one without an entry is told, with the warnings about those before it. -/
theorem empty_of_catalogs {failure : Failure}
    (failed : (lists.mapM (buildCatalog settings workbook file market)).outcome = .error failure)
    (told : failure.issueKind?.isSome = true) :
    ∃ before list after, lists = before ++ list :: after ∧
      (∀ earlier ∈ before, HasEntry settings workbook earlier) ∧ ¬HasEntry settings workbook list ∧
      failure = .emptyList (listName list.name market) ∧
      (lists.mapM (buildCatalog settings workbook file market)).journal.issues =
        warningsOf settings workbook file market before := by
  obtain ⟨before, list, after, rfl, earlier, failedHere⟩ := Report.mapM_eq_error_iff.1 failed
  obtain ⟨sheets, others⟩ := List.forall_mem_append.1 present
  obtain ⟨grid, sheet⟩ := others list List.mem_cons_self
  obtain ⟨none, same, quiet⟩ := empty_of_buildCatalog sheet failedHere told
  refine ⟨before, list, after, rfl, fun other member => ?_, none, same, ?_⟩
  · obtain ⟨_, here⟩ := sheets other member
    exact (exists_buildCatalog_iff here file market).1 (earlier other member)
  · rw [Report.issues_mapM_of_error earlier failedHere, quiet, List.append_nil]
    rfl

end Lists

/-! ## The taxonomy -/

section Taxonomies

variable {source : Taxonomy.Source} {table : List Row}
  (numbered : Taxonomy.HasNumberedColumns source.containers)
include numbered

/-- Why a taxonomy is not built is not told. -/
theorem issueKind?_of_build {failure : Failure}
    (failed : (Taxonomy.build source table).outcome = .error failure) : failure.issueKind? = none := by
  have kept : (Taxonomy.keep source (Taxonomy.candidates source table)).outcome =
      .ok (Taxonomy.keptRows source table) :=
    Taxonomy.keep_eq_ok_iff.2 ⟨fun entry _ => Taxonomy.containerCodes_ok numbered entry.1.code, rfl⟩
  rw [Taxonomy.outcome_build, kept] at failed
  cases sorted : Taxonomy.sortGroups (Taxonomy.groupsIn (Taxonomy.keptRows source table)) with
  | error e =>
    simp only [bind, Except.bind, sorted, Except.mapError] at failed
    cases failed
    rfl
  | ok groups =>
    simp only [bind, Except.bind, sorted, Except.mapError] at failed
    cases failed

end Taxonomies

section TaxonomyStage

/-- The taxonomy is built of two tables. -/
theorem buildTaxonomy_of_load (file market : String) {categories containers : List Row}
    (loaded : Table.load workbook settings.taxonomy.categorySheet settings.headerRowOffset = .ok categories)
    (others : Table.load workbook settings.taxonomy.containerSheet settings.headerRowOffset =
      .ok containers) :
    (buildTaxonomy settings workbook file market).outcome =
      (Taxonomy.build ⟨file, listName settings.taxonomy.name market, settings.taxonomy.marker, containers⟩
        categories).outcome := by
  rw [buildTaxonomy, loaded, others]
  show Report.outcome (Taxonomy.build _ categories >>= _) = _
  rw [Report.outcome_bind]
  cases (Taxonomy.build ⟨file, listName settings.taxonomy.name market, settings.taxonomy.marker, containers⟩
    categories).outcome <;> rfl

variable (file market : String) {categoryGrid containerGrid : Grid}
  (categorySheet : workbook.get? settings.taxonomy.categorySheet = some categoryGrid)
  (containerSheet : workbook.get? settings.taxonomy.containerSheet = some containerGrid)
include categorySheet containerSheet

theorem issueKind?_of_buildTaxonomy {failure : Failure}
    (failed : (buildTaxonomy settings workbook file market).outcome = .error failure) :
    failure.issueKind? = none := by
  cases loaded : Table.load workbook settings.taxonomy.categorySheet settings.headerRowOffset with
  | error other =>
    rw [buildTaxonomy, loaded] at failed
    cases failed
    exact Table.issueKind?_of_load categorySheet loaded
  | ok categories =>
    cases others : Table.load workbook settings.taxonomy.containerSheet settings.headerRowOffset with
    | error other =>
      rw [buildTaxonomy, loaded, others] at failed
      cases failed
      exact Table.issueKind?_of_load containerSheet others
    | ok containers =>
      rw [buildTaxonomy_of_load file market loaded others] at failed
      exact issueKind?_of_build (Taxonomy.hasNumberedColumns_load others) failed

end TaxonomyStage

/-! ## Drafts -/

/-- Whether a workbook has all sheets and names a country that the table knows. -/
structure Opens (settings : Settings) (workbook : Workbook) (country market : String) : Prop where
  sheets : ∀ sheet ∈ settings.requiredSheets, workbook.has sheet = true
  text : CountryText settings workbook (some country)
  known : Market.Knows settings.countries (trim country)
  read : (readMarket settings workbook).outcome = .ok (country, market)

theorem opens_of_readMarket (sheets : ∀ sheet ∈ settings.requiredSheets, workbook.has sheet = true)
    {country : String} (read : (readMarket settings workbook).outcome = .ok (country, market)) :
    Opens settings workbook country market := by
  obtain ⟨grid, index⟩ := exists_index sheets
  obtain ⟨text, _, known⟩ := outcome_readMarket_ok index read
  exact ⟨sheets, text, known, read⟩

/-- The part of a draft that comes after the country is known. -/
def draftLists (settings : Settings) (workbook : Workbook) (file country market : String) :
    Report Draft := do
  let catalogs ← settings.catalogLists.mapM (buildCatalog settings workbook file market)
  let taxonomy ← buildTaxonomy settings workbook file market
  return ⟨market, trim country, catalogs, taxonomy⟩

section Drafts

variable {country : String} (opens : Opens settings workbook country market)
include opens

theorem draft_of_opens (file : String) :
    (draft settings file workbook).outcome = (draftLists settings workbook file country market).outcome ∧
      (draft settings file workbook).journal.issues =
        (draftLists settings workbook file country market).journal.issues := by
  rw [draft, checkSheets_of_present opens.sheets, pure_bind, Report.bind_of_ok opens.read]
  refine ⟨rfl, ?_⟩
  rw [Report.issues_append, issues_readMarket]
  rfl

theorem sheets_of_lists : ∀ list ∈ settings.catalogLists, ∃ grid, workbook.get? list.sheet = some grid :=
  fun _ member => exists_listSheet opens.sheets member

/-- Of a draft the first list without an entry is told, with the warnings about those before it. -/
theorem empty_of_draft {failure : Failure}
    (failed : (draft settings file workbook).outcome = .error failure)
    (told : failure.issueKind?.isSome = true) :
    ∃ before list after, settings.catalogLists = before ++ list :: after ∧
      (∀ earlier ∈ before, HasEntry settings workbook earlier) ∧ ¬HasEntry settings workbook list ∧
      failure = .emptyList (listName list.name market) ∧
      (draft settings file workbook).journal.issues =
        warningsOf settings workbook file market before := by
  obtain ⟨_, categories⟩ := exists_categorySheet opens.sheets
  obtain ⟨_, containers⟩ := exists_containerSheet opens.sheets
  obtain ⟨outcome, issues⟩ := draft_of_opens opens file
  rw [outcome] at failed
  rw [issues]
  rcases Report.bind_eq_error_iff.1 failed with failed | ⟨catalogs, _, failed⟩
  · obtain ⟨before, list, after, split, earlier, none, same, quiet⟩ :=
      empty_of_catalogs (sheets_of_lists opens) failed told
    refine ⟨before, list, after, split, earlier, none, same, ?_⟩
    rw [draftLists, Report.bind_of_error failed, quiet]
  · rcases Report.bind_eq_error_iff.1 failed with failed | ⟨_, _, never⟩
    · rw [issueKind?_of_buildTaxonomy file market categories containers failed] at told
      cases told
    · cases never

/-- What comes to a draft has entries in all lists, and warns about each list in turn. -/
theorem entries_of_draft {d : Draft} (ok : (draft settings file workbook).outcome = .ok d) :
    (∀ list ∈ settings.catalogLists, HasEntry settings workbook list) ∧
      (draft settings file workbook).journal.issues =
        warningsOf settings workbook file market settings.catalogLists
          ++ (buildTaxonomy settings workbook file market).journal.issues := by
  obtain ⟨outcome, issues⟩ := draft_of_opens opens file
  rw [outcome] at ok
  rw [issues]
  obtain ⟨catalogs, built, ok⟩ := Report.exists_of_bind_ok ok
  refine ⟨(exists_catalogs_iff (sheets_of_lists opens) file market).1 ⟨catalogs, built⟩, ?_⟩
  rw [draftLists, Report.bind_of_ok built, Report.issues_append, Report.issues_mapM built,
    Report.issues_bind_pure]
  rfl

end Drafts

/-! ## Tables -/

section Tables

variable {reading : Reading} {blocks : List Block}

theorem rowsFor_ifield (reading : Reading) (file : String) (blocks : List Block) :
    rowsFor .ifield reading file blocks =
      parseBlocks reading file blocks >>= fun parsed => pure (parsed.map fun (name, p) => (name, p.rows)) :=
  rfl

/-- Blocks that are read have rows under their names. -/
theorem has_of_rowsFor {rows : Keyed String (List ImportRow)}
    (read : (rowsFor .ifield reading file blocks).outcome = .ok rows) {block : Block}
    (member : block ∈ blocks) : rows.has block.name = true := by
  rw [rowsFor_ifield] at read
  obtain ⟨parsed, read, kept⟩ := Report.exists_of_bind_ok read
  rw [parseBlocks_eq] at read
  obtain ⟨pairs, each, collected⟩ := Report.exists_of_bind_ok read
  cases kept
  cases collected
  have named : pairs.map Prod.fst = blocks.map Block.name := by
    rw [Report.outcome_mapM] at each
    refine Report.map_of_mapM (fun b pair made => ?_) each
    rw [outcome_namedBlock] at made
    cases parsed : (parse reading b.text).outcome with
    | error failure =>
      rw [parsed] at made
      cases made
    | ok _ =>
      rw [parsed] at made
      cases made
      rfl
  have key : block.name ∈ (Keyed.ofList pairs).map Prod.fst := by
    rw [Keyed.map_fst_ofList, List.mem_eraseDups, named]
    exact List.mem_map_of_mem member
  obtain ⟨⟨_, p⟩, among, rfl⟩ := List.mem_map.1 key
  exact List.any_eq_true.2 ⟨_, List.mem_map_of_mem among, beq_self_eq_true _⟩

/-- Once the blocks are read, the tables are put together without a failure or an issue. -/
theorem finish_ifield_of_read {d : Draft} {rows : Keyed String (List ImportRow)}
    (read : (rowsFor .ifield (readingOf settings) file d.blocks).outcome = .ok rows) :
    (∃ made, (finish settings .ifield file d).outcome = .ok made) ∧
      (finish settings .ifield file d).journal.issues =
        (rowsFor .ifield (readingOf settings) file d.blocks).journal.issues := by
  obtain ⟨bundle, made⟩ := @Export.exists_assemble (d.plan settings file) rows d.blocks
    fun block member _ => has_of_rowsFor read member
  rw [finish, Report.bind_of_ok read, made]
  refine ⟨⟨_, rfl⟩, ?_⟩
  rw [Report.issues_append]
  exact List.append_nil _

theorem finish_ifield_eq_error_iff {d : Draft} {failure : Failure} :
    (finish settings .ifield file d).outcome = .error failure ↔
      (parseBlocks (readingOf settings) file d.blocks).outcome = .error failure := by
  cases read : (rowsFor .ifield (readingOf settings) file d.blocks).outcome with
  | error other =>
    rw [finish, Report.bind_of_error read]
    rcases Report.bind_eq_error_iff.1 read with unread | ⟨_, _, never⟩
    · rw [unread, Except.error.injEq, Except.error.injEq]
    · cases never
  | ok rows =>
    obtain ⟨⟨made, ok⟩, _⟩ := finish_ifield_of_read read
    rw [rowsFor_ifield] at read
    obtain ⟨parsed, parsedOk, _⟩ := Report.exists_of_bind_ok read
    rw [ok, parsedOk]
    constructor <;> intro failed <;> cases failed

theorem issues_finish_ifield (d : Draft) :
    (finish settings .ifield file d).journal.issues =
      (parseBlocks (readingOf settings) file d.blocks).journal.issues := by
  cases read : (rowsFor .ifield (readingOf settings) file d.blocks).outcome with
  | error other =>
    rw [finish, Report.bind_of_error read, rowsFor_ifield, Report.issues_bind_pure]
  | ok rows => rw [(finish_ifield_of_read read).2, rowsFor_ifield, Report.issues_bind_pure]

end Tables

end Codebook.Compilation
