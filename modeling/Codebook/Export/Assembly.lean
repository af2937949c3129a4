import Codebook.Catalog.Basic
import Codebook.Export.Bundle
import Codebook.ImportRow.Distinct
import Codebook.ImportRow.Parsing

/-!
# Assembling bundles

For the platform that reads definition texts a bundle has one text for each list and one with all
lists. For the other one the rows of each list become a table, one by one or as the sheets of a single
artifact, and the captions of images may follow as another table.
-/

namespace Codebook.Export

/-! ## Captions -/

/-- Characters without markup: what stands between angle brackets, if there is something, is left out
together with the brackets. -/
def withoutMarkup : List Char → List Char
  | [] => []
  | '<' :: rest =>
    if rest.head? == some '>' then '<' :: withoutMarkup rest
    else
      match _ : rest.dropWhile (· != '>') with
      | _ :: after => withoutMarkup after
      | [] => '<' :: withoutMarkup rest
  | c :: rest => c :: withoutMarkup rest
termination_by chars => chars.length
decreasing_by
  · simp
  · have := (List.dropWhile_sublist (· != '>') (l := rest)).length_le
    simp_all
    omega
  · simp
  · simp

/-- The columns of the captions. -/
def captionColumns : List String := ["Object Name", "Caption", "CategoryCode"]

/-- The caption record of an entry. -/
def captionOf (e : Entry) : Record :=
  captionColumns.zip
    [
      .text (ImportRow.objectNameOf e.code),
      .text (String.ofList (withoutMarkup e.label.toList)),
      .text (",".intercalate (e.categories.map ImportRow.objectNameOf))
    ]

/-- The caption records of the image entries of catalogs. -/
def captions (catalogs : List Catalog) : List Record :=
  (catalogs.flatMap Catalog.entries).filter Entry.isImage |>.map captionOf

/-! ## Artifacts -/

/-- How a bundle is put together. -/
structure Plan where
  workbook : String
  market : String
  country : String
  catalogs : List Catalog
  /-- Whether the tables become the sheets of one artifact. -/
  combined : Bool
  /-- Whether the captions of images are added. -/
  captions : Bool
  /-- The lists that become tables, with or without their market code; `none` stands for all. -/
  tabular : Option (List String)
  reading : ImportRow.Reading

/-- The greatest number of characters of a sheet title. -/
def titleLimit : Nat := 31

/-- The title of the sheet of a list. -/
def sheetTitle (list : String) : String :=
  String.ofList (list.toList.take titleLimit)

/-- Whether a block becomes a table. -/
def isTabular (plan : Plan) (block : Block) : Bool :=
  match plan.tabular with
  | none => true
  | some names =>
    names.any fun name => block.name == name || block.name == name ++ "_" ++ plan.market

/-- The text artifacts of blocks. -/
def textArtifacts (market : String) (blocks : List Block) : List Artifact :=
  (blocks.map fun b => ⟨b.name ++ ".txt", .text b.text⟩)
    ++ [⟨"ALL_LISTS_" ++ market ++ ".txt", .text (Block.allText blocks)⟩]

/-- The records of the rows of a block. -/
def recordsOf (rows : Keyed String (List ImportRow)) (block : Block) : List Record :=
  (ImportRow.distinct ((rows.get? block.name).getD [])).map ImportRow.record

/-- The tables of blocks. -/
def tableArtifacts (plan : Plan) (rows : Keyed String (List ImportRow)) (blocks : List Block) :
    List Artifact :=
  let sheet (b : Block) := (sheetTitle b.name, recordsOf rows b)
  if plan.combined then
    [⟨"ALL_LISTS_" ++ plan.market ++ ".xlsx",
      .table (some ImportRow.columns) (Keyed.ofList (blocks.map sheet))⟩]
  else
    blocks.map fun b => ⟨b.name ++ ".xlsx", .table (some ImportRow.columns) [sheet b]⟩

/-- The table of the captions, if there are any and they are asked for. -/
def captionArtifacts (plan : Plan) : List Artifact :=
  let records := if plan.captions then captions plan.catalogs else []
  if records.isEmpty then []
  else
    [⟨"IMAGERY_CAPTIONS_" ++ plan.market ++ ".xlsx",
      .table (some captionColumns) [("Captions", records)]⟩]

/-! ## Bundles -/

/-- The rows of blocks: those already known, and for the other blocks those of their text. -/
def completeRows (plan : Plan) (known : Keyed String (List ImportRow)) (blocks : List Block) :
    Report (Keyed String (List ImportRow)) := do
  let parsed ← ImportRow.parseBlocks plan.reading plan.workbook
    (blocks.filter fun b => !known.has b.name)
  return known.putAll (parsed.map fun (name, p) => (name, p.rows))

/-- The bundle of blocks for a platform; `known` holds the rows of blocks that are already parsed. -/
def assemble (plan : Plan) (platform : Platform) (known : Keyed String (List ImportRow))
    (blocks : List Block) : Report Bundle := do
  let bundle : List Artifact → Bundle := Bundle.mk platform plan.market plan.country
  match platform with
  | .dimensions => return bundle (textArtifacts plan.market blocks)
  | .ifield =>
    let selected := blocks.filter (isTabular plan)
    let rows ← completeRows plan known selected
    return bundle (tableArtifacts plan rows selected ++ captionArtifacts plan)

end Codebook.Export
