import Codebook.Proofs.Config.Offset
import Codebook.Proofs.Run.Naming
import Codebook.Proofs.Run.Shown
import Codebook.Proofs.Run.Stages
import Codebook.Proofs.Sheet.Layout
import Mathlib.Data.List.Find
import Mathlib.Logic.Relation

/-!
# The layout of a file

The order of the sheets of a file, the sheets that are not required, the rows above the labels of a list and the
blank rows below them are layout. A change of it keeps what counts for a run (`Change.alike`), so any number of
changes leaves a run as it is, as long as the file can still be read (`run_of_changes`).
-/

namespace Codebook

/-! ## Changes of a file -/

/-- The number of rows above the labels of the lists. -/
def Settings.rowsAbove (settings : Settings) : Nat :=
  Table.rowsAbove settings.headerRowOffset

namespace Spreadsheet

open Grid

/-- One change of a file that leaves the data alone: the sheets are put into another order, a sheet that the
settings do not require is added or taken away, or the layout of a sheet other than the index is changed. -/
inductive Change (settings : Settings) : Spreadsheet → Spreadsheet → Prop
  | order {sheets sheets' : Spreadsheet} : sheets.Perm sheets' → Change settings sheets sheets'
  | added {sheets : Spreadsheet} {title : String} {grid : Grid} : title ∉ settings.requiredSheets →
    title ∉ sheets.map Prod.fst → Change settings sheets ((title, grid) :: sheets)
  | removed {sheets : Spreadsheet} {title : String} {grid : Grid} : title ∉ settings.requiredSheets →
    Change settings ((title, grid) :: sheets) sheets
  | edited {sheets : Spreadsheet} {title : String} {grid grid' : Grid} : title ≠ settings.indexSheet →
    Grid.Edit settings.rowsAbove grid grid' →
    Change settings ((title, grid) :: sheets) ((title, grid') :: sheets)

/-- Whether no sheet of a file has a cell behind the last column that has a name. -/
def FitsColumns (sheets : Spreadsheet) : Prop :=
  ∀ sheet ∈ sheets, sheet.2.width ≤ Column.greatest

instance : DecidablePred FitsColumns := fun sheets =>
  inferInstanceAs (Decidable (∀ sheet ∈ sheets, sheet.2.width ≤ Column.greatest))

/-- Whether two files have the same index sheet and hold the same in the other required sheets, from the
labels on. -/
structure Alike (settings : Settings) (sheets sheets' : Spreadsheet) : Prop where
  index : Keyed.get? sheets settings.indexSheet = Keyed.get? sheets' settings.indexSheet
  contents : ∀ title ∈ settings.requiredSheets,
    (Keyed.get? sheets title).map (fun grid => content (grid.shown.drop settings.rowsAbove)) =
      (Keyed.get? sheets' title).map fun grid => content (grid.shown.drop settings.rowsAbove)

variable {settings : Settings} {sheets sheets' : Spreadsheet}

theorem Alike.of_get?_eq (same : ∀ title ∈ settings.requiredSheets,
    Keyed.get? sheets title = Keyed.get? sheets' title) : Alike settings sheets sheets' :=
  ⟨same _ (Compilation.mem_requiredSheets.2 (.inl rfl)), fun title member => by rw [same title member]⟩

theorem Alike.trans {sheets'' : Spreadsheet} (first : Alike settings sheets sheets')
    (second : Alike settings sheets' sheets'') : Alike settings sheets sheets'' :=
  ⟨first.index.trans second.index, fun title member =>
    (first.contents title member).trans (second.contents title member)⟩

/-- A sheet that is not required does not hide one that is. -/
theorem get?_cons_other {title required : String} (other : title ∉ settings.requiredSheets)
    (member : required ∈ settings.requiredSheets) (grid : Grid) :
    Keyed.get? ((title, grid) :: sheets) required = Keyed.get? sheets required := by
  rw [Keyed.get?_cons, if_neg]
  rintro rfl
  exact other member

/-- A change keeps the titles apart, and what counts for a run. -/
theorem Change.alike (change : Change settings sheets sheets') (distinct : (sheets.map Prod.fst).Nodup) :
    (sheets'.map Prod.fst).Nodup ∧ Alike settings sheets sheets' := by
  cases change with
  | order perm =>
    exact ⟨(perm.map Prod.fst).nodup_iff.1 distinct, .of_get?_eq fun _ _ => Keyed.get?_of_perm perm distinct _⟩
  | added other fresh =>
    exact ⟨List.nodup_cons.2 ⟨fresh, distinct⟩,
      .of_get?_eq fun _ member => (get?_cons_other other member _).symm⟩
  | removed other =>
    exact ⟨(List.nodup_cons.1 distinct).2, .of_get?_eq fun _ member => get?_cons_other other member _⟩
  | edited other edit =>
    refine ⟨distinct, ?_, fun required _ => ?_⟩
    · rw [Keyed.get?_cons, if_neg other, Keyed.get?_cons, if_neg other]
    · rw [Keyed.get?_cons, Keyed.get?_cons]
      split
      · exact congrArg some edit.content_eq
      · rfl

/-- Any number of changes keeps what counts for a run. -/
theorem alike_of_changes (changes : Relation.ReflTransGen (Change settings) sheets sheets')
    (distinct : (sheets.map Prod.fst).Nodup) :
    (sheets'.map Prod.fst).Nodup ∧ Alike settings sheets sheets' := by
  induction changes with
  | refl => exact ⟨distinct, .of_get?_eq fun _ _ => rfl⟩
  | tail _ change ih =>
    obtain ⟨apart, alike⟩ := change.alike ih.1
    exact ⟨apart, ih.2.trans alike⟩

end Spreadsheet

namespace Compilation

open Grid Spreadsheet

/-! ## Lists -/

section Loads

variable {α : Type} {offset : Number} {content : Option (Texts × List Texts)}
  {loaded loaded' : Except Failure (List Row)}

/-- What follows the loading of a table comes to the same for tables that show the same. -/
theorem bind_of_loads (loads : Table.Loads offset content loaded)
    (loads' : Table.Loads offset content loaded') {next next' : List Row → Report α}
    (nothing : next [] = next' [])
    (shown : ∀ {labels records width width' table table'}, Table.Shows labels records width table →
      Table.Shows labels records width' table' → next table = next' table') :
    Report.ofExcept loaded >>= next = Report.ofExcept loaded' >>= next' := by
  cases loads with
  | nothing =>
    cases loads'
    exact congrArg (fun report => Report.ofExcept (.ok ()) >>= fun _ => report) nothing
  | refused labels records split =>
    cases loads' with
    | refused => rfl
    | shown whole => exact absurd split whole
  | shown whole shows =>
    cases loads' with
    | refused _ _ split => exact absurd split whole
    | shown _ shows' =>
      exact congrArg (fun report => Report.ofExcept (.ok ()) >>= fun _ => report) (shown shows shows')

end Loads

variable {settings : Settings} {workbook workbook' : Workbook} {file market : String}

/-- Whether two workbooks hold the same in a sheet, from the labels on. -/
def SheetAlike (settings : Settings) (workbook workbook' : Workbook) (sheet : String) : Prop :=
  ∃ content, Table.Loads settings.headerRowOffset content
      (Table.load workbook sheet settings.headerRowOffset) ∧
    Table.Loads settings.headerRowOffset content (Table.load workbook' sheet settings.headerRowOffset)

theorem buildCatalog_eq {list : ListSettings} (alike : SheetAlike settings workbook workbook' list.sheet) :
    buildCatalog settings workbook file market list = buildCatalog settings workbook' file market list := by
  obtain ⟨content, loads, loads'⟩ := alike
  refine bind_of_loads loads loads' rfl fun shows shows' => ?_
  rw [Catalog.build_of_shows shows shows']

theorem buildTaxonomy_eq
    (categories : SheetAlike settings workbook workbook' settings.taxonomy.categorySheet)
    (containers : SheetAlike settings workbook workbook' settings.taxonomy.containerSheet) :
    buildTaxonomy settings workbook file market = buildTaxonomy settings workbook' file market := by
  obtain ⟨content, loads, loads'⟩ := categories
  obtain ⟨held, held₁, held₂⟩ := containers
  refine bind_of_loads loads loads' ?_ fun {_ _ _ _ table table'} shows shows' => ?_
  -- Without categories nothing is looked up in the containers, but they are loaded and may be refused.
  · refine bind_of_loads held₁ held₂ rfl fun within within' => ?_
    exact congrArg (· >>= _) (Taxonomy.build_congr rfl fun _ member => absurd member List.not_mem_nil)
  · have found := Taxonomy.candidates_of_shows shows shows' settings.taxonomy.marker
    refine bind_of_loads held₁ held₂ ?_ fun within within' => ?_
    · exact congrArg (· >>= _) (Taxonomy.build_congr found fun _ _ => rfl)
    · exact congrArg (· >>= _) (Taxonomy.build_congr found fun c member =>
        Taxonomy.containerCodes_of_shows within within' (Taxonomy.code_of_candidate shows member))

theorem checkSheets_eq
    (same : ∀ sheet ∈ settings.requiredSheets, workbook.has sheet = workbook'.has sheet) :
    checkSheets workbook settings.requiredSheets = checkSheets workbook' settings.requiredSheets := by
  have found : settings.requiredSheets.find? (fun sheet => !workbook.has sheet) =
      settings.requiredSheets.find? fun sheet => !workbook'.has sheet :=
    List.find?_congr fun sheet member => by rw [same sheet member]
  rw [checkSheets, checkSheets, found]

theorem readMarket_eq (index : workbook.get? settings.indexSheet = workbook'.get? settings.indexSheet) :
    readMarket settings workbook = readMarket settings workbook' := by
  have loaded : Table.load workbook settings.indexSheet (.whole 0) =
      Table.load workbook' settings.indexSheet (.whole 0) := by
    rw [Table.load, Table.load, index]
  rw [readMarket, readMarket, loaded]

/-- Workbooks with the same sheets present, the same index and the same data have the same draft. -/
theorem draft_eq (same : ∀ sheet ∈ settings.requiredSheets, workbook.has sheet = workbook'.has sheet)
    (index : workbook.get? settings.indexSheet = workbook'.get? settings.indexSheet)
    (alike : ∀ sheet ∈ settings.requiredSheets, workbook.has sheet = true →
      SheetAlike settings workbook workbook' sheet) :
    draft settings file workbook = draft settings file workbook' := by
  rw [draft, draft, ← checkSheets_eq same, readMarket_eq index]
  rcases checkSheets_cases workbook settings.requiredSheets with
    ⟨present, checked⟩ | ⟨_, sheet, _, _, _, _, checked⟩
  · have each {sheet : String} (member : sheet ∈ settings.requiredSheets) :
        SheetAlike settings workbook workbook' sheet := alike sheet member (present sheet member)
    have categories := each (mem_requiredSheets.2 (.inr (.inr (.inl rfl))))
    have containers := each (mem_requiredSheets.2 (.inr (.inr (.inr rfl))))
    refine bind_congr fun _ => bind_congr fun found => ?_
    obtain ⟨shown, market⟩ := found
    have catalogs : settings.catalogLists.mapM (buildCatalog settings workbook file market) =
        settings.catalogLists.mapM (buildCatalog settings workbook' file market) :=
      Report.mapM_congr fun list member =>
        buildCatalog_eq (each (mem_requiredSheets.2 (.inr (.inl ⟨list, member, rfl⟩))))
    dsimp only
    rw [catalogs, buildTaxonomy_eq categories containers]
  · rw [checked]
    rfl

/-! ## Runs -/

section Runs

variable {sheets sheets' : Spreadsheet} {n : Int} (whole : settings.headerRowOffset.toInt? = some n)
include whole

/-- A table that is loaded from a sheet of a file shows what the sheet holds. -/
theorem loads_of_read (distinct : (sheets.map Prod.fst).Nodup) (fits : sheets.FitsColumns)
    (ok : Spreadsheet.read settings.requiredSheets.contains sheets = .ok workbook) {title : String}
    (member : title ∈ settings.requiredSheets) {grid : Grid}
    (stored : Keyed.get? sheets title = some grid) :
    Table.Loads settings.headerRowOffset (content (grid.shown.drop settings.rowsAbove))
      (Table.load workbook title settings.headerRowOffset) := by
  have present := get?_of_read distinct ok (List.contains_iff_mem.2 member)
  rw [stored] at present
  exact Table.loads_load present (width_shown_le (fits _ (Keyed.mem_of_get? stored))) whole

/-- Files with the same data that can be read have the same draft. -/
theorem draft_eq_of_alike (distinct : (sheets.map Prod.fst).Nodup)
    (distinct' : (sheets'.map Prod.fst).Nodup) (fits : sheets.FitsColumns) (fits' : sheets'.FitsColumns)
    (alike : Alike settings sheets sheets')
    (ok : Spreadsheet.read settings.requiredSheets.contains sheets = .ok workbook)
    (ok' : Spreadsheet.read settings.requiredSheets.contains sheets' = .ok workbook') (file : String) :
    draft settings file workbook = draft settings file workbook' := by
  have found {title : String} (member : title ∈ settings.requiredSheets) :=
    get?_of_read distinct ok (List.contains_iff_mem.2 member)
  have found' {title : String} (member : title ∈ settings.requiredSheets) :=
    get?_of_read distinct' ok' (List.contains_iff_mem.2 member)
  refine draft_eq (fun title member => ?_) ?_ fun title member present => ?_
  · have contents := congrArg Option.isSome (alike.contents title member)
    rw [Option.isSome_map, Option.isSome_map] at contents
    rw [Keyed.has_eq_isSome_get?, Keyed.has_eq_isSome_get?, found member, found' member,
      Option.isSome_map, Option.isSome_map, contents]
  · have indexed : settings.indexSheet ∈ settings.requiredSheets := mem_requiredSheets.2 (.inl rfl)
    rw [found indexed, found' indexed, alike.index]
  · obtain ⟨cells, there⟩ := Keyed.exists_get?_of_has present
    rw [found member] at there
    obtain ⟨grid, stored, rfl⟩ := Option.map_eq_some_iff.1 there
    have contents := alike.contents title member
    rw [stored] at contents
    obtain ⟨grid', stored', same⟩ : ∃ grid', Keyed.get? sheets' title = some grid' ∧
        content (grid'.shown.drop settings.rowsAbove) = content (grid.shown.drop settings.rowsAbove) :=
      Option.map_eq_some_iff.1 contents.symm
    exact ⟨_, loads_of_read whole distinct fits ok member stored,
      same ▸ loads_of_read whole distinct' fits' ok' member stored'⟩

end Runs

/-- Whether a path leads to a file with the given sheets. -/
def Holds (tree : FileTree) (path : Path) (sheets : Spreadsheet) : Prop :=
  ∃ at_, tree.locate path = .ok at_ ∧ tree.isDirectory at_ = false ∧
    tree.files.get? at_ = some (.single (.sheets sheets))

theorem readWorkbook_of_holds {tree : FileTree} {path : Path} {sheets : Spreadsheet}
    (holds : Holds tree path sheets) (wanted : String → Bool) :
    readWorkbook tree path wanted = Spreadsheet.read wanted sheets := by
  obtain ⟨at_, located, isFile, there⟩ := holds
  rw [readWorkbook, located]
  dsimp only
  rw [isFile, if_neg Bool.false_ne_true, there]

/-- Whether a failure is that of a file that cannot be read. -/
def IsReadFailure (path : Path) (failure : Failure) : Prop :=
  (∃ reason, failure = .unreadableWorkbook path.text reason) ∨ ∃ cause, failure = .brokenWorkbook cause

/-- A run over a file that cannot be read fails for that. -/
theorem run_of_not_isReadable {tree : FileTree} {path : Path} {sheets : Spreadsheet}
    (holds : Holds tree path sheets) (unreadable : ¬sheets.IsReadable settings.requiredSheets.contains)
    (platform : Platform) :
    ∃ failure, IsReadFailure path failure ∧ run settings platform tree path = Report.fail failure := by
  cases read : Spreadsheet.read settings.requiredSheets.contains sheets with
  | ok workbook => exact absurd (exists_read_iff.1 ⟨workbook, read⟩) unreadable
  | error e =>
    have failed := (readWorkbook_of_holds holds _).trans read
    rw [run, failed]
    cases e with
    | unreadable reason => exact ⟨_, .inl ⟨reason, rfl⟩, rfl⟩
    | broken cause => exact ⟨_, .inr ⟨cause, rfl⟩, rfl⟩

/-- Layout does not matter to a run, unless it keeps the file from being read. For settings that are accepted and
a file that can be read, any number of changes of the layout leaves the run as it is: its failure or what it
makes, its warnings and its messages. -/
theorem run_of_changes {text : String} (loaded : Config.load .builtIn text = .ok settings)
    {sheets sheets' : Spreadsheet} (changes : Relation.ReflTransGen (Change settings) sheets sheets')
    (distinct : (sheets.map Prod.fst).Nodup) (fits : sheets.FitsColumns) (fits' : sheets'.FitsColumns)
    {tree tree' : FileTree} {path : Path} (holds : Holds tree path sheets)
    (holds' : Holds tree' path sheets')
    (readable : sheets.IsReadable settings.requiredSheets.contains) (platform : Platform) :
    (sheets'.IsReadable settings.requiredSheets.contains →
        run settings platform tree' path = run settings platform tree path) ∧
      (¬sheets'.IsReadable settings.requiredSheets.contains → ∃ failure, IsReadFailure path failure ∧
        run settings platform tree' path = Report.fail failure) := by
  refine ⟨fun readable' => ?_, fun unreadable => run_of_not_isReadable holds' unreadable platform⟩
  obtain ⟨n, whole⟩ := Config.exists_offset_of_load loaded
  obtain ⟨distinct', alike⟩ := alike_of_changes changes distinct
  obtain ⟨workbook, ok⟩ := exists_read_iff.2 readable
  obtain ⟨workbook', ok'⟩ := exists_read_iff.2 readable'
  have same := draft_eq_of_alike whole distinct distinct' fits fits' alike ok ok' path.name
  rw [run_eq, run_eq, draftAt_of_read ((readWorkbook_of_holds holds _).trans ok),
    draftAt_of_read ((readWorkbook_of_holds holds' _).trans ok'), same]

/-- A tree with a file with the given sheets. -/
def treeOf (sheets : Spreadsheet) : FileTree :=
  ⟨[(["m"], .single (.sheets sheets))], []⟩

theorem holds_treeOf (sheets : Spreadsheet) : Holds (treeOf sheets) ⟨"", ["m"]⟩ sheets :=
  ⟨["m"], rfl, rfl, rfl⟩

/-- The sheets of a file besides that of its list. -/
def otherSheets : Spreadsheet :=
  let under (count : Nat) (rows : Grid) : Grid := List.replicate count [.text "-"] ++ rows
  [
    ("INDEX", under 4 [[.text "-", .text "-", .text "-", .text "Sweden"]]),
    ("T", under 8 [[.text "L", .text "C", .text "D", .text "H", .text "HC"],
      [.text "Y", .text "5", .text "diary", .text "W", .text "500"]]),
    ("K", under 8 [[.text "K"]])
  ]

/-- The sheet of a list with the given cells in the first row, and the given rows between the labels and the only
row of the list. -/
def listSheet (first : List Cell) (between : Grid) : Grid :=
  first :: List.replicate 7 [.text "-"] ++ [[.text "D 5"]] ++ (between ++ [[.text "yes"]])

/-- A file whose list has the given cells in its first row. -/
def fileUnder (first : List Cell) : Spreadsheet :=
  ("C", listSheet first []) :: otherSheets

/-- A file with the same data as `fileUnder`: other cells above the labels of the list and blank ones below, the
list behind the other sheets, and one sheet more. -/
def rearranged : Spreadsheet :=
  ("Notes", [[.text "x"]]) ::
    (otherSheets ++ [("C", listSheet [.flag true, .number (.whole 5)] [[.text " ", .empty]])])

theorem change_titles (first first' : List Cell) :
    Change lineFeed (fileUnder first) (fileUnder first') :=
  .edited (by decide) (@Grid.Edit.titles _ [first] [first'] _ rfl (show 1 ≤ lineFeed.rowsAbove by decide))

theorem changes_rearranged : Relation.ReflTransGen (Change lineFeed) (fileUnder [.text "-"]) rearranged := by
  have blankRow : Grid.Edit lineFeed.rowsAbove (listSheet [.flag true, .number (.whole 5)] [])
      (listSheet [.flag true, .number (.whole 5)] [[.text " ", .empty]]) :=
    .blankRow (by decide) (by decide) (.inl (by decide))
  have start : Relation.ReflTransGen (Change lineFeed) (fileUnder [.text "-"])
      (fileUnder [.flag true, .number (.whole 5)]) := .single (change_titles _ _)
  exact ((start.tail (.edited (by decide) blankRow)).tail (.order (List.perm_append_singleton _ _).symm)).tail
    (.added (by decide) (by decide))

/-- A file that is laid out in another way makes the same. -/
theorem run_of_changes_rearranged :
    Config.load .builtIn lineFeedText = .ok lineFeed ∧
      Relation.ReflTransGen (Change lineFeed) (fileUnder [.text "-"]) rearranged ∧
        run lineFeed .dimensions (treeOf rearranged) ⟨"", ["m"]⟩ =
          run lineFeed .dimensions (treeOf (fileUnder [.text "-"])) ⟨"", ["m"]⟩ := by
  have same := (run_of_changes load_lineFeedText changes_rearranged (by decide) (by decide) (by decide)
    (holds_treeOf _) (holds_treeOf _) (by decide) .dimensions).1 (by decide)
  exact ⟨load_lineFeedText, changes_rearranged, same⟩

/-- A mark in front of a quote, above the labels of a list, keeps the whole file from being read. -/
theorem not_run_of_changes_marked :
    Config.load .builtIn lineFeedText = .ok lineFeed ∧
      Change lineFeed (fileUnder [.text "-"]) (fileUnder [.text "\uFEFF\"x"]) ∧
        (run lineFeed .dimensions (treeOf (fileUnder [.text "-"])) ⟨"", ["m"]⟩).outcome.isOk = true ∧
        (run lineFeed .dimensions (treeOf (fileUnder [.text "\uFEFF\"x"])) ⟨"", ["m"]⟩).outcome =
          .error (.unreadableWorkbook "m" "substring not found (sheet: C)") :=
  ⟨load_lineFeedText, change_titles _ _, by decide +kernel, by decide +kernel⟩

end Compilation

end Codebook
