import Codebook.Catalog.Building
import Codebook.Definition.Rendering
import Codebook.Export.Assembly
import Codebook.Export.FileTree
import Codebook.Run.IssueLog
import Codebook.Run.Market
import Codebook.Run.Summary
import Codebook.Sheet.Unreadable
import Codebook.Taxonomy.Building

/-!
# Compiling a workbook

A run takes the country and the tables from a workbook, builds the catalogs and the taxonomy in the
order of the settings, writes each as definition text, and assembles the bundle. The first thing that
goes wrong ends the run; the warnings up to there and the reason go to the issue log.
-/

namespace Codebook

/-- What a run makes of a workbook. -/
structure Compilation where
  market : String
  country : String
  blocks : List Block
  bundle : Bundle
  stats : List ListStat
deriving Repr, DecidableEq

namespace Compilation

/-- The name of a list in a market. -/
def listName (base market : String) : String :=
  base ++ "_" ++ market

/-! ## Reading -/

/-- Fails with the first sheet that is not in the workbook. -/
def checkSheets (workbook : Workbook) (required : List String) : Report Unit :=
  match required.find? fun sheet => !workbook.has sheet with
  | some sheet => Report.fail (.missingSheet sheet)
  | none => return ()

/-- The country that a workbook names and its market code. -/
def readMarket (settings : Settings) (workbook : Workbook) : Report (String × String) := do
  let rows ← Report.ofExcept (Table.load workbook settings.indexSheet (.whole 0))
  let country ← Report.ofExcept (Table.textAt rows settings.countryCell)
  let market ← Report.ofExcept (Market.codeOf settings.countries country)
  let shown := country.getD ""
  Report.event .info ("market: " ++ shown ++ " (" ++ market ++ ")")
  return (shown, market)

/-! ## Lists -/

/-- The catalog of a flat list. -/
def buildCatalog (settings : Settings) (workbook : Workbook) (file market : String)
    (list : ListSettings) : Report Catalog := do
  let name := listName list.name market
  let rows ← Report.ofExcept (Table.load workbook list.sheet settings.headerRowOffset)
  let catalog ← Catalog.build ⟨file, name⟩
    ⟨list.codeColumn, list.categoryStartColumn, list.imageList⟩ rows
  Report.event .info (name ++ ": " ++ toString catalog.entries.length ++ " entries")
  return catalog

/-- The taxonomy. -/
def buildTaxonomy (settings : Settings) (workbook : Workbook) (file market : String) :
    Report Taxonomy := do
  let name := listName settings.taxonomy.name market
  let categories ← Report.ofExcept
    (Table.load workbook settings.taxonomy.categorySheet settings.headerRowOffset)
  let containers ← Report.ofExcept
    (Table.load workbook settings.taxonomy.containerSheet settings.headerRowOffset)
  let taxonomy ← Taxonomy.build ⟨file, name, settings.taxonomy.marker, containers⟩ categories
  Report.event .info
    (name ++ ": " ++ toString taxonomy.groups.length ++ " header groups, "
      ++ toString taxonomy.categoryCount ++ " categories")
  return taxonomy

/-! ## Bundles -/

/-- How the settings ask for definition text to be read. -/
def readingOf (settings : Settings) : ImportRow.Reading :=
  ⟨settings.taxonomy.alcoholicHeaderCodes, settings.exporting.strictParsing, none⟩

/-- The rows of the blocks where the platform takes tables. -/
def rowsFor (platform : Platform) (reading : ImportRow.Reading) (file : String)
    (blocks : List Block) : Report (Keyed String (List ImportRow)) := do
  match platform with
  | .dimensions => return []
  | .ifield =>
    let parsed ← ImportRow.parseBlocks reading file blocks
    return parsed.map fun (name, p) => (name, p.rows)

/-- The figures of the lists by name. -/
def statsOf (entries : Keyed String Nat) (rows : Keyed String (List ImportRow)) : List ListStat :=
  entries.map fun (name, count) =>
    ⟨name, count, (ImportRow.distinct ((rows.get? name).getD [])).length⟩

/-! ## Runs -/

/-- Compiles a workbook for a platform; `file` is the name of its file. -/
def ofWorkbook (settings : Settings) (platform : Platform) (file : String) (workbook : Workbook) :
    Report Compilation := do
  checkSheets workbook settings.requiredSheets
  let (shown, market) ← readMarket settings workbook
  let country := Text.trim shown
  let catalogs ← settings.catalogLists.mapM (buildCatalog settings workbook file market)
  let taxonomy ← buildTaxonomy settings workbook file market
  let blocks := catalogs.map Definition.renderCatalog ++ [Definition.renderTaxonomy taxonomy]
  let entries := Keyed.ofList
    ((catalogs.map fun c => (c.name, c.entries.length)) ++ [(taxonomy.name, taxonomy.categoryCount)])
  let reading := readingOf settings
  let rows ← rowsFor platform reading file blocks
  let plan : Export.Plan :=
    ⟨file, market, country, catalogs, settings.exporting.combinedWorkbook,
      settings.exporting.imageCaptions, settings.exporting.tabularLists, reading⟩
  let bundle ← Export.assemble plan platform rows blocks
  return ⟨market, country, blocks, bundle, statsOf entries rows⟩

/-- The workbook in the file at a path, with the sheets whose titles are wanted. -/
def readWorkbook (tree : FileTree) (path : Path) (wanted : String → Bool) :
    Except Spreadsheet.ReadError Workbook :=
  let missing (obstacle : Obstacle) :=
    Spreadsheet.ReadError.unreadable (FileError.message ⟨obstacle, path⟩)
  match tree.locate path with
  | .error obstacle => .error (missing obstacle)
  | .ok at_ =>
    if tree.isDirectory at_ then .error (missing .isDirectory)
    else
      match tree.files.get? at_ with
      | none => .error (missing .absent)
      | some (.single (.sheets sheets)) => Spreadsheet.read wanted sheets
      | some (.single (.text text)) => .error (Spreadsheet.whyNone text)
      | some (.archive _) => .error (Spreadsheet.whyNone "")

/-- Compiles the workbook at a path for a platform. -/
def run (settings : Settings) (platform : Platform) (tree : FileTree) (path : Path) :
    Report Compilation := do
  match readWorkbook tree path settings.requiredSheets.contains with
  | .error (.unreadable reason) => Report.fail (.unreadableWorkbook path.text reason)
  | .error (.broken fault) => Report.fail (.brokenWorkbook fault)
  | .ok workbook => ofWorkbook settings platform path.name workbook

/-! ## The issue log of a run -/

/-- The list or the sheet that a failure is about. -/
def subject (failure : Failure) : String :=
  let name :=
    match failure with
    | .emptyList list => list
    | .missingSheet sheet => sheet
    | _ => ""
  if name.isEmpty then "<WORKBOOK>" else name

/-- The line that a failure is about. -/
def failureLine : Failure → Int
  | .malformedFragment line _ => line
  | _ => -1

/-- The issues that a run leaves: its warnings, and the reason if it failed for one that is told. -/
def issuesOf (file : String) (report : Report Compilation) : List Issue :=
  match report.outcome with
  | .ok _ => report.journal.issues
  | .error failure =>
    match failure.issueKind? with
    | none => []
    | some kind =>
      report.journal.issues
        ++ [⟨file, subject failure, failureLine failure, kind, failure.message⟩]

end Compilation

end Codebook
