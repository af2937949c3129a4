import Codebook.Catalog.Basic
import Codebook.Definition.Block
import Codebook.Taxonomy.Basic

/-!
# Writing definition text

A list opens with its name and ends in a brace and a semicolon; a comma follows each of its entries but
the last. The taxonomy writes each group as a header with a block, then the block of the local header,
which always ends in the open answer and keeps its place.
-/

namespace Codebook.Definition

/-! ## Labels -/

/-- Whether a character ends a line. -/
def isLineBreak (c : Char) : Bool :=
  c == '\n' || c == '\r'

/-- The characters of a label on one line: every run of blanks with a line break in it becomes one
space. `blanks` holds the blanks just passed, the last first. -/
def foldLinesFrom (blanks : List Char) : List Char → List Char
  | [] => closeRun blanks
  | c :: rest =>
    if Text.isBlank c then foldLinesFrom (c :: blanks) rest
    else closeRun blanks ++ c :: foldLinesFrom [] rest
where
  /-- A finished run of blanks, given backwards. -/
  closeRun (blanks : List Char) : List Char :=
    if blanks.any isLineBreak then [' '] else blanks.reverse

/-- The characters of a label on one line. -/
def foldLines (chars : List Char) : List Char :=
  foldLinesFrom [] chars

/-- Characters with every quote doubled. -/
def doubleQuotes (chars : List Char) : List Char :=
  chars.flatMap fun c => if c == '"' then ['"', '"'] else [c]

/-- A label as a string of definition text. -/
def quoteLabel (label : String) : String :=
  String.ofList ('"' :: doubleQuotes (foldLines label.toList) ++ ['"'])

/-! ## Entries -/

/-- The blanks in front of what belongs to an entry. -/
def indent : String := "      "

/-- The lines that open a list. -/
def opening (name : String) : List String :=
  [name ++ " \"\" define", "\x7b"]

/-- The line that ends a list. -/
def ending : String := "\x7d;"

/-- Codes as the value of a property. -/
def codesValue (codes : List String) : String :=
  "\x7b_" ++ ",_".intercalate codes ++ "\x7d"

/-- The lines of a bracket clause with one property. -/
def clauseLines (key : String) (codes : List String) : List String :=
  ["[", indent ++ key ++ " = \"" ++ codesValue codes ++ "\"", "]"]

/-- A code and its label. -/
def heading (code label : String) : String :=
  "_" ++ code ++ " " ++ quoteLabel label

/-- The lines of an entry of a catalog. -/
def entryLines (e : Entry) : List String :=
  heading e.code e.label :: clauseLines "CategoryCode" e.categories

/-- The lines of a category. -/
def categoryLines (code label : String) (containers : List String) : List String :=
  (indent ++ heading code label)
    :: (if containers.isEmpty then [] else clauseLines "ContainersCodes" containers)

/-- Lines with a comma after the last one. -/
def withComma : List String → List String
  | [] => []
  | [line] => [line ++ ","]
  | line :: rest => line :: withComma rest

/-- The lines of entries, with a comma after each entry but the last. -/
def joinEntries : List (List String) → List String
  | [] => []
  | [entry] => entry
  | entry :: rest => withComma entry ++ joinEntries rest

/-! ## Lists -/

/-- The definition text of a catalog. -/
def renderCatalog (c : Catalog) : Block :=
  ⟨c.name, opening c.name ++ joinEntries (c.entries.map entryLines) ++ [ending]⟩

/-- The lines of a category of the taxonomy. -/
def nodeLines (c : Category) : List String :=
  categoryLines c.code c.label c.containers

/-- The lines of a group. -/
def groupLines (g : Group) : List String :=
  [heading g.code g.label, "\x7b"] ++ joinEntries (g.children.map nodeLines) ++ ["\x7d,"]

/-- The lines of the local group. -/
def localLines (locals : List Category) : List String :=
  [heading localCode localLabel, "\x7b"]
    ++ joinEntries (locals.map nodeLines ++ [categoryLines openAnswerCode openAnswerLabel []])
    ++ ["\x7d fix"]

/-- The definition text of a taxonomy. -/
def renderTaxonomy (t : Taxonomy) : Block :=
  ⟨t.name, opening t.name ++ t.groups.flatMap groupLines ++ localLines t.locals ++ [ending]⟩

end Codebook.Definition
