import Codebook.Keyed
import Codebook.Document.Basic

/-!
# Settings

What a run is told: which sheets hold the lists, the taxonomy and the country, how the result is
exported, and which market code each country has.
-/

namespace Codebook

/-- A flat list and the sheet it is read from; columns count from one. -/
structure ListSettings where
  /-- The name of the list, to which a run appends the market code. -/
  name : String
  sheet : String
  codeColumn : Number
  categoryStartColumn : Number
  imageList : Bool
deriving Repr, DecidableEq

/-- The taxonomy and the sheets it is read from. -/
structure TaxonomySettings where
  name : String
  categorySheet : String
  containerSheet : String
  /-- The text that marks the rows of the taxonomy. -/
  marker : String
  alcoholicHeaderCodes : List String
deriving Repr, DecidableEq

/-- How the result is packaged. -/
structure ExportSettings where
  platform : String
  outputDirectory : String
  combinedWorkbook : Bool
  imageCaptions : Bool
  /-- The lists that become tables; `none` stands for all of them. -/
  tabularLists : Option (List String)
  archive : Bool
  strictParsing : Bool
deriving Repr, DecidableEq

/-- The settings of a run. -/
structure Settings where
  indexSheet : String
  countryCell : String
  headerRowOffset : Number
  catalogLists : List ListSettings
  taxonomy : TaxonomySettings
  exporting : ExportSettings
  /-- The market code of each country, in the order of the file. -/
  countries : Keyed Scalar String
deriving Repr, DecidableEq

namespace Settings

/-- Every sheet that a run reads, in reading order and without repetition. -/
def requiredSheets (s : Settings) : List String :=
  (s.indexSheet :: s.catalogLists.map ListSettings.sheet
    ++ [s.taxonomy.categorySheet, s.taxonomy.containerSheet]).eraseDups

end Settings

/-! ## Defaults -/

/-- The market codes used when the file has none. -/
def defaultCountries : Keyed Scalar String :=
  [
    (.text "Austria", "AT"), (.text "Croatia", "CR"), (.text "Czechia", "CZ"), (.text "Denmark", "DK"),
    (.text "Finland", "FI"), (.text "Ireland", "IE"), (.text "Norway", "NO"), (.text "Slovakia", "SK"),
    (.text "Sweden", "SE"), (.text "Switzerland", "CH"), (.text "Hungary", "HU"),
    (.text "Nigeria", "NG"), (.text "Serbia", "SB"), (.text "Bulgaria", "BG"), (.text "KENYA", "KE"),
    (.text "Greece", "GR")
  ]

/-- The flat lists used when there is no file. -/
def defaultLists : List ListSettings :=
  [
    ⟨"MAIN_BRANDLIST", "MAIN BRAND LIST", .whole 2, .whole 3, false⟩,
    ⟨"DIARY_BRANDLIST", "DIARY BRAND LIST", .whole 2, .whole 3, false⟩,
    ⟨"EQUITY_BRANDLIST", "EQUITY BRAND LIST", .whole 2, .whole 3, false⟩,
    ⟨"IMAGERY_BRANDLIST", "IMAGERY", .whole 4, .whole 5, true⟩
  ]

/-- The taxonomy used when there is no file; a file's taxonomy takes what it leaves out from it. -/
def defaultTaxonomy : TaxonomySettings :=
  ⟨"DIARY_CATEGORIES", "SUB CATEGORY LIST", "CONTAINERS", "diary", ["800", "900"]⟩

/-- The packaging used where the file says nothing. -/
def defaultExport : ExportSettings :=
  ⟨"dimensions", "./output", false, false, none, true, false⟩

/-- The settings used when there is no file. -/
def defaultSettings : Settings :=
  ⟨"INDEX", "D5", .whole 9, defaultLists, defaultTaxonomy, defaultExport, defaultCountries⟩

end Codebook
