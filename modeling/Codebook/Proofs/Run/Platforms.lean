import Codebook.Proofs.Export.Assembly
import Codebook.Proofs.Taxonomy.Building
import Codebook.Run.Compilation
import Mathlib.Data.List.Nodup

/-!
# Two platforms

A run first makes a draft of a workbook, and only then does the platform make a difference
(`run_eq`). For the platform that reads definition texts nothing can go wrong any more. For the other one
the texts are read: what goes into a table is what a reader of the text finds in it, and what is set aside
is noted block by block (`run_agree`).
-/

namespace Codebook

open Definition ImportRow

namespace Settings

/-- The names of all lists, without the market code. -/
def baseNames (settings : Settings) : List String :=
  settings.catalogLists.map ListSettings.name ++ [settings.taxonomy.name]

/-- The names of all lists in a market: those of the catalogs, then that of the taxonomy. -/
def listNames (settings : Settings) (market : String) : List String :=
  settings.baseNames.map fun base => Compilation.listName base market

end Settings

/-- A catalog has the name of its place. -/
theorem Catalog.name_of_build {place : Place} {shape : Shape} {rows : List Row} {c : Catalog}
    (ok : (build place shape rows).outcome = .ok c) : c.name = place.list := by
  cases rows with
  | nil => cases ok
  | cons labels rows =>
    obtain ⟨codeColumn, _, ok⟩ := Report.exists_of_bind_ok ok
    obtain ⟨entries, _, ok⟩ := Report.exists_of_bind_ok ok
    split at ok
    · cases ok
    · cases ok
      rfl

namespace Compilation

/-! ## Drafts -/

/-- What a run makes of a workbook before the platform makes a difference. -/
structure Draft where
  market : String
  country : String
  catalogs : List Catalog
  taxonomy : Taxonomy

namespace Draft

/-- The definition texts of a draft. -/
def blocks (d : Draft) : List Block :=
  d.catalogs.map renderCatalog ++ [renderTaxonomy d.taxonomy]

/-- The number of entries of each list. -/
def entries (d : Draft) : Keyed String Nat :=
  Keyed.ofList
    ((d.catalogs.map fun c => (c.name, c.entries.length))
      ++ [(d.taxonomy.name, d.taxonomy.categoryCount)])

/-- How the bundle of a draft is put together. -/
def plan (settings : Settings) (file : String) (d : Draft) : Export.Plan :=
  ⟨file, d.market, d.country, d.catalogs, settings.exporting.combinedWorkbook,
    settings.exporting.imageCaptions, settings.exporting.tabularLists, readingOf settings⟩

/-- The rows that the definition texts of a draft are read as, by list. -/
def rows (settings : Settings) (d : Draft) : Keyed String (List ImportRow) :=
  d.blocks.map fun block => (block.name, (contents (readingOf settings) block.text).rows)

/-- What the platform that reads texts makes of a draft. -/
def texts (d : Draft) : Compilation :=
  ⟨d.market, d.country, d.blocks,
    ⟨.dimensions, d.market, d.country, Export.textArtifacts d.market d.blocks⟩, statsOf d.entries []⟩

/-- What the platform that reads tables makes of a draft whose texts can be read. -/
def tables (settings : Settings) (file : String) (d : Draft) : Compilation :=
  ⟨d.market, d.country, d.blocks,
    ⟨.ifield, d.market, d.country,
      Export.tableArtifacts (d.plan settings file) (d.rows settings) d.blocks
        ++ Export.captionArtifacts (d.plan settings file)⟩,
    statsOf d.entries (d.rows settings)⟩

end Draft

/-- The draft of a workbook. -/
def draft (settings : Settings) (file : String) (workbook : Workbook) : Report Draft := do
  checkSheets workbook settings.requiredSheets
  let (shown, market) ← readMarket settings workbook
  let catalogs ← settings.catalogLists.mapM (buildCatalog settings workbook file market)
  let taxonomy ← buildTaxonomy settings workbook file market
  return ⟨market, Text.trim shown, catalogs, taxonomy⟩

/-- The draft of the workbook at a path. -/
def draftAt (settings : Settings) (tree : FileTree) (path : Path) : Report Draft :=
  match readWorkbook tree path settings.requiredSheets.contains with
  | .error (.unreadable reason) => Report.fail (.unreadableWorkbook path.text reason)
  | .error (.broken fault) => Report.fail (.brokenWorkbook fault)
  | .ok workbook => draft settings path.name workbook

theorem draftAt_of_read {settings : Settings} {tree : FileTree} {path : Path} {workbook : Workbook}
    (read : readWorkbook tree path settings.requiredSheets.contains = .ok workbook) :
    draftAt settings tree path = draft settings path.name workbook := by
  rw [draftAt, read]

theorem exists_workbook_of_draftAt {settings : Settings} {tree : FileTree} {path : Path} {d : Draft}
    (ok : (draftAt settings tree path).outcome = .ok d) :
    ∃ workbook, readWorkbook tree path settings.requiredSheets.contains = .ok workbook ∧
      (draft settings path.name workbook).outcome = .ok d := by
  unfold draftAt at ok
  split at ok
  · cases ok
  · cases ok
  · next workbook read => exact ⟨workbook, read, ok⟩

/-- What a platform makes of a draft. -/
def finish (settings : Settings) (platform : Platform) (file : String) (d : Draft) :
    Report Compilation := do
  let rows ← rowsFor platform (readingOf settings) file d.blocks
  let bundle ← Export.assemble (d.plan settings file) platform rows d.blocks
  return ⟨d.market, d.country, d.blocks, bundle, statsOf d.entries rows⟩

theorem ofWorkbook_eq (settings : Settings) (platform : Platform) (file : String) (workbook : Workbook) :
    ofWorkbook settings platform file workbook =
      draft settings file workbook >>= finish settings platform file := by
  rw [draft, bind_assoc]
  refine bind_congr fun _ => ?_
  rw [bind_assoc]
  refine bind_congr fun (shown, market) => ?_
  simp only [bind_assoc, pure_bind]
  rfl

/-- A run makes a draft, and then what the platform makes of it. -/
theorem run_eq (settings : Settings) (platform : Platform) (tree : FileTree) (path : Path) :
    run settings platform tree path =
      draftAt settings tree path >>= finish settings platform path.name := by
  rw [run, draftAt]
  cases readWorkbook tree path settings.requiredSheets.contains with
  | error fault => cases fault <;> rfl
  | ok workbook => exact ofWorkbook_eq ..

/-! ## Names of lists -/

theorem listName_inj {a b market : String} : listName a market = listName b market ↔ a = b := by
  rw [listName, listName, String.append_left_inj, String.append_left_inj]

theorem nodup_listNames {settings : Settings} (distinct : settings.baseNames.Nodup) (market : String) :
    (settings.listNames market).Nodup :=
  List.Nodup.map (fun _ _ => listName_inj.1) distinct

theorem name_of_buildCatalog {settings : Settings} {workbook : Workbook} {file market : String}
    {list : ListSettings} {c : Catalog}
    (ok : (buildCatalog settings workbook file market list).outcome = .ok c) :
    c.name = listName list.name market := by
  obtain ⟨rows, _, ok⟩ := Report.exists_of_bind_ok ok
  obtain ⟨catalog, built, ok⟩ := Report.exists_of_bind_ok ok
  obtain ⟨_, _, ok⟩ := Report.exists_of_bind_ok ok
  cases ok
  exact Catalog.name_of_build built

theorem name_of_buildTaxonomy {settings : Settings} {workbook : Workbook} {file market : String}
    {t : Taxonomy} (ok : (buildTaxonomy settings workbook file market).outcome = .ok t) :
    t.name = listName settings.taxonomy.name market := by
  obtain ⟨categories, _, ok⟩ := Report.exists_of_bind_ok ok
  obtain ⟨containers, _, ok⟩ := Report.exists_of_bind_ok ok
  obtain ⟨taxonomy, built, ok⟩ := Report.exists_of_bind_ok ok
  obtain ⟨_, _, ok⟩ := Report.exists_of_bind_ok ok
  cases ok
  rw [(Taxonomy.build_eq_ok_iff.1 built).2.2]
  rfl

/-- The blocks of a draft have the names of the lists, in their order. -/
theorem map_name_blocks {settings : Settings} {file : String} {workbook : Workbook} {d : Draft}
    (ok : (draft settings file workbook).outcome = .ok d) :
    d.blocks.map Block.name = settings.listNames d.market := by
  obtain ⟨_, _, ok⟩ := Report.exists_of_bind_ok ok
  obtain ⟨⟨shown, market⟩, _, ok⟩ := Report.exists_of_bind_ok ok
  obtain ⟨catalogs, built, ok⟩ := Report.exists_of_bind_ok ok
  obtain ⟨taxonomy, last, ok⟩ := Report.exists_of_bind_ok ok
  cases ok
  have names : catalogs.map Catalog.name =
      settings.catalogLists.map fun list => listName list.name market := by
    rw [Report.outcome_mapM] at built
    exact Report.map_of_mapM (fun _ _ => name_of_buildCatalog) built
  have rendered : (⟨market, Text.trim shown, catalogs, taxonomy⟩ : Draft).blocks.map Block.name =
      catalogs.map Catalog.name ++ [taxonomy.name] := by
    rw [Draft.blocks, List.map_append, List.map_map]
    rfl
  rw [rendered, names, name_of_buildTaxonomy last, Settings.listNames, Settings.baseNames,
    List.map_append, List.map_map]
  rfl

theorem map_name_draftAt {settings : Settings} {tree : FileTree} {path : Path} {d : Draft}
    (ok : (draftAt settings tree path).outcome = .ok d) :
    d.blocks.map Block.name = settings.listNames d.market := by
  obtain ⟨_, _, drafted⟩ := exists_workbook_of_draftAt ok
  exact map_name_blocks drafted

/-! ## What a platform makes of a draft -/

theorem readingOf_eq {settings : Settings} (lenient : settings.exporting.strictParsing = false) :
    readingOf settings = ⟨settings.taxonomy.alcoholicHeaderCodes, false, none⟩ := by
  rw [readingOf, lenient]

/-- For the platform that reads texts nothing can go wrong. -/
theorem finish_dimensions (settings : Settings) (file : String) (d : Draft) :
    finish settings .dimensions file d = pure d.texts := rfl

/-- Each block is read once: its rows are known when the tables are put together. -/
theorem finish_ifield {settings : Settings} {file : String} {d : Draft}
    (distinct : (d.blocks.map Block.name).Nodup) (all : settings.exporting.tabularLists = none)
    {compilation : Compilation} (ok : (finish settings .ifield file d).outcome = .ok compilation) :
    (∀ block ∈ d.blocks, (parse (readingOf settings) block.text).outcome =
        .ok (contents (readingOf settings) block.text)) ∧
      compilation = d.tables settings file ∧
      (finish settings .ifield file d).journal.issues = d.blocks.flatMap fun block =>
        (contents (readingOf settings) block.text).malformed.map (Fragment.issue file block.name) := by
  have finished := ok
  obtain ⟨rows, made, -⟩ := Report.exists_of_bind_ok ok
  obtain ⟨parsed, read, kept⟩ := Report.exists_of_bind_ok made
  obtain ⟨readable, rfl⟩ := (parseBlocks_eq_ok_iff distinct).1 read
  obtain rfl : rows = d.rows settings := by
    cases kept
    rw [Draft.rows, List.map_map]
    rfl
  -- so assembling finds no block that is still to be read, and no fragment is noted twice
  have known : ∀ block ∈ d.blocks, (d.rows settings).has block.name = true := by
    intro block member
    exact List.any_eq_true.2 ⟨_, List.mem_map_of_mem member, beq_self_eq_true _⟩
  have whole : finish settings .ifield file d = ⟨.ok (d.tables settings file),
      (rowsFor .ifield (readingOf settings) file d.blocks).journal ++ Journal.empty⟩ := by
    rw [finish, Report.bind_of_ok made, Export.assemble_of_known all known]
    rfl
  rw [whole] at finished
  refine ⟨readable, (Except.ok.inj finished).symm, ?_⟩
  rw [whole, Journal.append_empty, rowsFor, Report.issues_bind_pure, issues_parseBlocks read]

/-! ## Artifacts and figures of a draft -/

section Lists

variable {d : Draft} (distinct : (d.blocks.map Block.name).Nodup)
include distinct

/-- The figures of a draft are those of its lists. -/
theorem map_fst_entries : d.entries.map Prod.fst = d.blocks.map Block.name := by
  have names : ((d.catalogs.map fun c => (c.name, c.entries.length))
      ++ [(d.taxonomy.name, d.taxonomy.categoryCount)]).map Prod.fst = d.blocks.map Block.name := by
    rw [Draft.blocks, List.map_append, List.map_append, List.map_map, List.map_map]
    rfl
  rw [Draft.entries, Keyed.ofList_eq_self (names ▸ distinct), names]

variable {block : Block} (member : block ∈ d.blocks)
include member

theorem get?_texts :
    d.texts.bundle.get? (block.name ++ ".txt") = some ⟨block.name ++ ".txt", .text block.text⟩ := by
  have artifacts : d.texts.bundle.artifacts =
      (d.blocks.map fun b => ⟨b.name ++ ".txt", .text b.text⟩)
        ++ [⟨"ALL_LISTS_" ++ d.market ++ ".txt", .text (Block.allText d.blocks)⟩] := rfl
  exact Export.get?_of_block (fun b => ⟨b.name ++ ".txt", .text b.text⟩) ".txt" artifacts
    (fun _ => rfl) distinct member

theorem get?_rows (settings : Settings) : (d.rows settings).get? block.name =
    some (contents (readingOf settings) block.text).rows := by
  have names : (d.rows settings).map Prod.fst = d.blocks.map Block.name := by
    rw [Draft.rows, List.map_map]
    rfl
  have nodup : ((d.rows settings).map Prod.fst).Nodup := names ▸ distinct
  exact Keyed.get?_of_mem nodup (List.mem_map.2 ⟨block, member, rfl⟩)

theorem get?_tables {settings : Settings} (separate : settings.exporting.combinedWorkbook = false)
    (file : String) : (d.tables settings file).bundle.get? (block.name ++ ".xlsx") =
      some ⟨block.name ++ ".xlsx", .table (some columns) [(Export.sheetTitle block.name,
        (ImportRow.distinct (contents (readingOf settings) block.text).rows).map record)]⟩ := by
  have records : (ImportRow.distinct (contents (readingOf settings) block.text).rows).map record =
      Export.recordsOf (d.rows settings) block := by
    rw [Export.recordsOf, get?_rows distinct member]
    rfl
  have tables : Export.tableArtifacts (d.plan settings file) (d.rows settings) d.blocks =
      d.blocks.map fun b => ⟨b.name ++ ".xlsx", .table (some columns)
        [(Export.sheetTitle b.name, Export.recordsOf (d.rows settings) b)]⟩ := by
    unfold Export.tableArtifacts
    exact if_neg (by rw [Draft.plan, separate]; exact Bool.false_ne_true)
  have artifacts : (d.tables settings file).bundle.artifacts =
      (d.blocks.map fun b => ⟨b.name ++ ".xlsx", .table (some columns)
        [(Export.sheetTitle b.name, Export.recordsOf (d.rows settings) b)]⟩)
        ++ Export.captionArtifacts (d.plan settings file) := congrArg (· ++ _) tables
  rw [records]
  exact Export.get?_of_block (fun b => ⟨b.name ++ ".xlsx", .table (some columns)
    [(Export.sheetTitle b.name, Export.recordsOf (d.rows settings) b)]⟩) ".xlsx" artifacts
    (fun _ => rfl) distinct member

theorem exists_stat (settings : Settings) (file : String) :
    ∃ stat ∈ (d.tables settings file).stats, stat.list = block.name ∧
      stat.rows = (ImportRow.distinct (contents (readingOf settings) block.text).rows).length := by
  have listed : block.name ∈ d.entries.map Prod.fst := by
    rw [map_fst_entries distinct]
    exact List.mem_map_of_mem member
  obtain ⟨⟨_, count⟩, counted, rfl⟩ := List.mem_map.1 listed
  refine ⟨_, List.mem_map_of_mem counted, rfl, ?_⟩
  show ((ImportRow.distinct (((d.rows settings).get? block.name).getD [])).length : Int) = _
  rw [get?_rows distinct member]
  rfl

end Lists

/-! ## Agreement -/

/-- Whether a compilation of tables agrees with one of definition texts: both are about the same market,
the same lists and the same entries, and each table holds the records of the distinct rows that its
definition text is read as, with their number among the figures. -/
structure Agree (settings : Settings) (texts tables : Compilation) : Prop where
  market : tables.market = texts.market
  country : tables.country = texts.country
  blocks : tables.blocks = texts.blocks
  listed : tables.stats.map ListStat.list = settings.listNames texts.market
  entries : (tables.stats.map fun stat => (stat.list, stat.entries)) =
    texts.stats.map fun stat => (stat.list, stat.entries)
  lists : ∀ name ∈ settings.listNames texts.market, ∃ text parsed,
    texts.bundle.get? (name ++ ".txt") = some ⟨name ++ ".txt", .text text⟩ ∧
    (parse ⟨settings.taxonomy.alcoholicHeaderCodes, false, none⟩ text).outcome = .ok parsed ∧
    tables.bundle.get? (name ++ ".xlsx") = some ⟨name ++ ".xlsx", .table (some columns)
      [(Export.sheetTitle name, (ImportRow.distinct parsed.rows).map record)]⟩ ∧
    ∃ stat ∈ tables.stats, stat.list = name ∧ stat.rows = (ImportRow.distinct parsed.rows).length

theorem agree_of_draft {settings : Settings} {d : Draft}
    (names : d.blocks.map Block.name = settings.listNames d.market)
    (distinct : (d.blocks.map Block.name).Nodup)
    (separate : settings.exporting.combinedWorkbook = false)
    (lenient : settings.exporting.strictParsing = false)
    (readable : ∀ block ∈ d.blocks, (parse (readingOf settings) block.text).outcome =
      .ok (contents (readingOf settings) block.text)) (file : String) :
    Agree settings d.texts (d.tables settings file) where
  market := rfl
  country := rfl
  blocks := rfl
  listed := by
    show (statsOf d.entries (d.rows settings)).map ListStat.list = settings.listNames d.market
    rw [← names, ← map_fst_entries distinct, statsOf, List.map_map]
    rfl
  entries := by
    show (statsOf _ _).map _ = (statsOf _ _).map _
    rw [statsOf, statsOf, List.map_map, List.map_map]
    rfl
  lists := by
    intro name listed
    have inside : name ∈ d.blocks.map Block.name := names ▸ listed
    obtain ⟨block, member, rfl⟩ := List.mem_map.1 inside
    exact ⟨block.text, contents (readingOf settings) block.text, get?_texts distinct member,
      readingOf_eq lenient ▸ readable block member, get?_tables distinct member separate file,
      exists_stat distinct member settings file⟩

/-- The two platforms agree. Where the run for texts fails, the run for tables is the same run; where both
succeed they agree, and the run for tables has the issues of the other one and then one for each fragment
that is set aside, in the order of the blocks and of the fragments in them. -/
theorem run_agree {settings : Settings} (distinct : settings.baseNames.Nodup)
    (all : settings.exporting.tabularLists = none)
    (separate : settings.exporting.combinedWorkbook = false)
    (lenient : settings.exporting.strictParsing = false) (tree : FileTree) (path : Path) :
    (∀ failure, (run settings .dimensions tree path).outcome = .error failure →
      run settings .ifield tree path = run settings .dimensions tree path) ∧
    ∀ texts tables, (run settings .dimensions tree path).outcome = .ok texts →
      (run settings .ifield tree path).outcome = .ok tables →
      Agree settings texts tables ∧
        (run settings .ifield tree path).journal.issues =
          (run settings .dimensions tree path).journal.issues
            ++ texts.blocks.flatMap fun block =>
              (contents ⟨settings.taxonomy.alcoholicHeaderCodes, false, none⟩ block.text).malformed.map
                (Fragment.issue path.name block.name) := by
  rw [run_eq, run_eq]
  cases drafted : (draftAt settings tree path).outcome with
  | error failure =>
    rw [Report.bind_of_error drafted, Report.bind_of_error drafted]
    exact ⟨fun _ _ => rfl, nofun⟩
  | ok d =>
    have names := map_name_draftAt drafted
    have nodup : (d.blocks.map Block.name).Nodup := names ▸ nodup_listNames distinct d.market
    rw [Report.bind_of_ok drafted, Report.bind_of_ok drafted, finish_dimensions]
    refine ⟨nofun, fun texts tables ok made => ?_⟩
    cases ok
    obtain ⟨readable, rfl, issues⟩ := finish_ifield nodup all made
    refine ⟨agree_of_draft names nodup separate lenient readable path.name, ?_⟩
    rw [Report.issues_append, Report.issues_append, issues, readingOf_eq lenient]
    show _ = (_ ++ []) ++ _
    rw [List.append_nil]
    rfl

/-- Settings with one catalog, whose one column holds all that there is to an entry. -/
def small : Settings where
  indexSheet := "I"
  countryCell := "A1"
  headerRowOffset := .whole 1
  catalogLists := [⟨"C", "C", .whole 1, .whole 1, false⟩]
  taxonomy := ⟨"T", "T", "K", "d", []⟩
  exporting := ⟨"ifield", "", false, false, none, false, false⟩
  countries := [(.text "S", "S")]

/-- A tree with a workbook that has an entry and a category, whose code has a blank in it. -/
def smallTree : FileTree where
  files :=
    [(["m"], .single (.sheets
      [
        ("I", [[.text "S"]]),
        ("C", [[.text "D 5"], [.text "yes"]]),
        ("T", [[.text "L", .text "C", .text "D", .text "H", .text "HC"],
          [.text "Y", .text "5 1", .text "d", .text "Z", .text "500"]]),
        ("K", [[.text "K"]])
      ]))]
  directories := []

/-- A blank in a code makes an issue of the run for tables, and no difference but for it; without a
workbook both runs fail alike. -/
theorem run_agree_small :
    small.baseNames.Nodup ∧
      run small .ifield .empty ⟨"", ["m"]⟩ = run small .dimensions .empty ⟨"", ["m"]⟩ ∧
      ∃ texts tables, (run small .dimensions smallTree ⟨"", ["m"]⟩).outcome = .ok texts ∧
        (run small .ifield smallTree ⟨"", ["m"]⟩).outcome = .ok tables ∧
        Agree small texts tables ∧
        (run small .ifield smallTree ⟨"", ["m"]⟩).journal.issues =
          (run small .dimensions smallTree ⟨"", ["m"]⟩).journal.issues
            ++ texts.blocks.flatMap (fun block =>
              (contents ⟨[], false, none⟩ block.text).malformed.map (Fragment.issue "m" block.name)) ∧
        (run small .ifield smallTree ⟨"", ["m"]⟩).journal.issues =
          [⟨"m", "T_S", 5, "MALFORMED_BLOCK", "unparseable fragment: _5 1 \"Y\""⟩] := by
  have distinct : small.baseNames.Nodup := by decide
  have missing : (run small .dimensions .empty ⟨"", ["m"]⟩).outcome =
      .error (.unreadableWorkbook "m" "[Errno 2] No such file or directory: 'm'") := by decide +kernel
  have first : (run small .dimensions smallTree ⟨"", ["m"]⟩).outcome.isOk = true := by decide +kernel
  have second : (run small .ifield smallTree ⟨"", ["m"]⟩).outcome.isOk = true ∧
      (run small .ifield smallTree ⟨"", ["m"]⟩).journal.issues =
        [⟨"m", "T_S", 5, "MALFORMED_BLOCK", "unparseable fragment: _5 1 \"Y\""⟩] := by decide +kernel
  have same := (run_agree distinct rfl rfl rfl .empty ⟨"", ["m"]⟩).1 _ missing
  have agree := (run_agree distinct rfl rfl rfl smallTree ⟨"", ["m"]⟩).2
  cases texts : (run small .dimensions smallTree ⟨"", ["m"]⟩).outcome with
  | error failure =>
    rw [texts] at first
    cases first
  | ok compiled =>
    cases tables : (run small .ifield smallTree ⟨"", ["m"]⟩).outcome with
    | error failure =>
      rw [tables] at second
      cases second.1
    | ok tabled =>
      obtain ⟨agrees, issues⟩ := agree compiled tabled texts tables
      exact ⟨distinct, same, compiled, tabled, rfl, rfl, agrees, issues, second.2⟩

end Compilation

end Codebook
