import Codebook.Proofs.Config.Naming
import Codebook.Proofs.Definition.Opening
import Codebook.Proofs.Run.Market
import Codebook.Proofs.Run.Platforms

/-!
# The names of a run

A list of a run is called by its name in the configuration and the market code. With a configuration that
is read with the built-in form these make a label: letters, digits and underscores behind a letter, and
line feeds where the name or the code ends with one. A block opens with its own list exactly if its name
has no line feed (`opensItself_iff_of_load`).
-/

namespace Codebook

open Definition Expression

/-! ## Labels -/

/-- A letter, then letters, digits, underscores and line feeds. -/
structure IsLabel (s : String) : Prop where
  first : ∃ c ∈ s.toList.head?, c.isAlpha = true
  all : ∀ c ∈ s.toList, (c.isAlphanum = true ∨ c = '_') ∨ c = '\n'

theorem IsLabel.head?_ne_underscore {s : String} (label : IsLabel s) : s.toList.head? ≠ some '_' := by
  intro same
  obtain ⟨c, first, letter⟩ := label.first
  rw [same] at first
  cases first
  cases letter

/-- What is said of a character holds if it does for every code below 128. -/
theorem of_isAlphanum {p : Char → Prop} (all : ∀ n < 128, (Char.ofNat n).isAlphanum = true → p (Char.ofNat n))
    {c : Char} (alphanum : c.isAlphanum = true) : p c := by
  have small : c.toNat < 128 := by
    rw [isAlphanum_iff, isAlpha_iff, isUpper_iff, isLower_iff, isDigit_iff] at alphanum
    omega
  have same := all c.toNat small
  rw [Char.ofNat_toNat] at same
  exact same alphanum

theorem isWordChar_of_isAlphanum {c : Char} (alphanum : c.isAlphanum = true) : isWordChar c = true :=
  of_isAlphanum (p := fun c => isWordChar c = true) (by decide +kernel) alphanum

theorem IsLabel.isWord {s : String} (label : IsLabel s) (sameLine : '\n' ∉ s.toList) : IsWord s := by
  refine ⟨?_, fun c member => ?_⟩
  · rintro rfl
    obtain ⟨c, first, -⟩ := label.first
    cases first
  · rcases label.all c member with (alphanum | rfl) | rfl
    · exact isWordChar_of_isAlphanum alphanum
    · decide
    · exact absurd member sameLine

theorem isAlphanum_of_isUpper {c : Char} (capital : c.isUpper = true) : c.isAlphanum = true :=
  isAlphanum_iff.2 (.inl (isAlpha_iff.2 (.inl capital)))

theorem all_of_isLineOf {IsKind : List Char → Prop} {p : Char → Prop} {s : String}
    (word : ∀ w, IsKind w → ∀ c ∈ w, p c) (line : IsLineOf IsKind s) :
    ∀ c ∈ s.toList, p c ∨ c = '\n' := by
  obtain ⟨w, isKind, same | same⟩ := line <;> rw [same] <;> intro c member
  · exact .inl (word w isKind c member)
  · rcases List.mem_append.1 member with member | member
    · exact .inl (word w isKind c member)
    · exact .inr (List.mem_singleton.1 member)

namespace Compilation

theorem isLabel_listName {base market : String} (name : IsLineOf IsName base) (code : IsLineOf IsCode market) :
    IsLabel (listName base market) := by
  refine ⟨?_, fun c member => ?_⟩
  · obtain ⟨w, ⟨⟨c, first, letter⟩, -⟩, same | same⟩ := name <;>
      refine ⟨c, ?_, letter⟩ <;> rw [listName, String.toList_append, String.toList_append, same] <;>
      cases w with
      | nil => cases first
      | cons d rest => exact first
  · rw [listName, String.toList_append, String.toList_append] at member
    rcases List.mem_append.1 member with member | member
    · rcases List.mem_append.1 member with member | member
      · exact all_of_isLineOf (fun w isName => isName.all) name c member
      · exact .inl (.inr (List.mem_singleton.1 member))
    · have capitals := all_of_isLineOf (fun w isCode => isCode.all) code c member
      exact capitals.imp_left fun capital => .inl (isAlphanum_of_isUpper capital)

/-! ## Names of a run -/

variable {settings : Settings} {tree : FileTree} {path : Path}

theorem exists_key_of_draftAt {d : Draft} (ok : (draftAt settings tree path).outcome = .ok d) :
    ∃ key, (key, d.market) ∈ settings.countries := by
  obtain ⟨workbook, -, ok⟩ := exists_workbook_of_draftAt ok
  obtain ⟨_, -, ok⟩ := Report.exists_of_bind_ok ok
  obtain ⟨⟨shown, market⟩, named, ok⟩ := Report.exists_of_bind_ok ok
  obtain ⟨catalogs, -, ok⟩ := Report.exists_of_bind_ok ok
  obtain ⟨taxonomy, -, ok⟩ := Report.exists_of_bind_ok ok
  cases ok
  obtain ⟨rows, -, named⟩ := Report.exists_of_bind_ok named
  obtain ⟨country, -, named⟩ := Report.exists_of_bind_ok named
  obtain ⟨code, known, named⟩ := Report.exists_of_bind_ok named
  obtain ⟨_, -, named⟩ := Report.exists_of_bind_ok named
  cases named
  exact Market.exists_key_of_codeOf known

/-- What a platform makes of a draft keeps its market, its country and its blocks. -/
theorem parts_of_finish {platform : Platform} {file : String} {d : Draft} {made : Compilation}
    (ok : (finish settings platform file d).outcome = .ok made) :
    made.market = d.market ∧ made.country = d.country ∧ made.blocks = d.blocks ∧
      ∃ rows, (Export.assemble (d.plan settings file) platform rows d.blocks).outcome = .ok made.bundle := by
  obtain ⟨rows, -, ok⟩ := Report.exists_of_bind_ok ok
  obtain ⟨bundle, assembled, ok⟩ := Report.exists_of_bind_ok ok
  cases ok
  exact ⟨rfl, rfl, rfl, rows, assembled⟩

/-- The names of lists are labels. -/
theorem isLabel_of_mem_listNames (named : settings.IsWellNamed) {key : Scalar} {market : String}
    (known : (key, market) ∈ settings.countries) : ∀ name ∈ settings.listNames market, IsLabel name := by
  intro name member
  obtain ⟨base, among, rfl⟩ := List.mem_map.1 member
  refine isLabel_listName ?_ (named.countries _ known)
  rcases List.mem_append.1 among with among | among
  · obtain ⟨list, inside, rfl⟩ := List.mem_map.1 among
    exact named.lists list inside
  · rw [List.mem_singleton.1 among]
    exact named.taxonomy

/-- What a run has made: its lists have their names, and these are labels. -/
theorem names_of_run (named : settings.IsWellNamed) {platform : Platform} {made : Compilation}
    (ok : (run settings platform tree path).outcome = .ok made) :
    made.blocks.map Block.name = settings.listNames made.market ∧
      ∀ name ∈ settings.listNames made.market, IsLabel name := by
  rw [run_eq] at ok
  obtain ⟨d, drafted, finished⟩ := Report.exists_of_bind_ok ok
  obtain ⟨market, -, blocks, -⟩ := parts_of_finish finished
  obtain ⟨key, known⟩ := exists_key_of_draftAt drafted
  rw [market, blocks]
  exact ⟨map_name_draftAt drafted, isLabel_of_mem_listNames named known⟩

/-! ## Openings -/

/-- The first thing in the text of a block is the opening of the list of its name. -/
def OpensItself (block : Block) : Prop :=
  ∃ line, (tokenize block.text).head? = some (.listOpen block.name line)

/-- The lines of a block begin with the opening of its list. -/
theorem exists_lines_of_mem_blocks {d : Draft} {block : Block} (member : block ∈ d.blocks) :
    ∃ more, more ≠ [] ∧ block.lines = opening block.name ++ more := by
  rcases List.mem_append.1 member with member | member
  · obtain ⟨catalog, -, rfl⟩ := List.mem_map.1 member
    exact ⟨joinEntries (catalog.entries.map entryLines) ++ [ending], by simp, List.append_assoc ..⟩
  · rw [List.mem_singleton.1 member]
    refine ⟨d.taxonomy.groups.flatMap groupLines ++ localLines d.taxonomy.locals ++ [ending], by simp, ?_⟩
    rw [renderTaxonomy, List.append_assoc, List.append_assoc, List.append_assoc]

theorem opensItself_iff {d : Draft} {block : Block} (member : block ∈ d.blocks)
    (label : IsLabel block.name) : OpensItself block ↔ '\n' ∉ block.name.toList := by
  constructor
  · rintro ⟨line, first⟩
    exact newline_not_mem_of_listOpen (List.mem_of_head? first)
  · intro sameLine
    obtain ⟨more, nonempty, lines⟩ := exists_lines_of_mem_blocks member
    refine ⟨1, ?_⟩
    rw [Block.text, lines]
    exact head?_tokenize_opening (label.isWord sameLine) label.head?_ne_underscore nonempty

/-- A block opens with its own list exactly if there is no line feed in its name, that is, if neither the
name in the configuration nor the market code ends with one. -/
theorem opensItself_iff_of_load {text : String} (loaded : Config.load .builtIn text = .ok settings)
    {platform : Platform} {made : Compilation}
    (ok : (run settings platform tree path).outcome = .ok made) :
    made.blocks.map Block.name = settings.listNames made.market ∧
      ∀ block ∈ made.blocks, OpensItself block ↔ '\n' ∉ block.name.toList := by
  obtain ⟨names, labels⟩ := names_of_run (Config.isWellNamed_of_load loaded) ok
  refine ⟨names, fun block member => ?_⟩
  have label := labels block.name (names ▸ List.mem_map_of_mem member)
  rw [run_eq] at ok
  obtain ⟨d, drafted, finished⟩ := Report.exists_of_bind_ok ok
  obtain ⟨-, -, blocks, -⟩ := parts_of_finish finished
  exact opensItself_iff (blocks ▸ member) label

/-- A configuration in which the name of the taxonomy ends with a line feed. Of the lists only the catalog
of one market is chosen to become a table, and all tables go into one artifact. -/
def lineFeedText : String :=
  "catalog_lists:\n- name: C\n  sheet: C\n  code_column: 1\n  category_start_column: 1\n"
    ++ "taxonomy:\n  name: \"T\\n\"\n  category_sheet: T\n  container_sheet: K\n"
    ++ "export:\n  combined_workbook: true\n  tabular_lists: [C_SE]\n"

/-- The settings of that configuration. -/
def lineFeed : Settings :=
  { defaultSettings with
    catalogLists := [⟨"C", "C", .whole 1, .whole 1, false⟩]
    taxonomy := { defaultTaxonomy with name := "T\n", categorySheet := "T", containerSheet := "K" }
    exporting := { defaultExport with combinedWorkbook := true, tabularLists := some ["C_SE"] } }

/-- A tree with a workbook for that configuration. -/
def treeIn (country : String) : FileTree where
  files :=
    let below (count : Nat) (rows : List (List Cell)) : List (List Cell) :=
      List.replicate count [.text "-"] ++ rows
    [(["m"], .single (.sheets
      [
        ("INDEX", below 4 [[.text "-", .text "-", .text "-", .text country]]),
        ("C", below 8 [[.text "D 5"], [.text "yes"]]),
        ("T", below 8 [[.text "L", .text "C", .text "D", .text "H", .text "HC"],
          [.text "Y", .text "5", .text "diary", .text "W", .text "500"]]),
        ("K", below 8 [[.text "K"]])
      ]))]
  directories := []

theorem load_lineFeedText : Config.load .builtIn lineFeedText = .ok lineFeed :=
  Report.eq_ok_of_toOption (by decide +kernel)

/-- The first tokens of the lists of a run with that configuration. -/
theorem exists_run_lineFeed :
    ∃ made, (run lineFeed .dimensions (treeIn "Sweden") ⟨"", ["m"]⟩).outcome = .ok made ∧
      made.blocks.map (fun block => (block.name, (tokenize block.text).head?)) =
        [
          ("C_SE", some (.listOpen "C_SE" 1)),
          ("T\n_SE",
            some (.malformed ("T _SE \"\" define \x7b _500 \"W\" \x7b _5 \"Y\" \x7d , "
              ++ "_1000 \"Local, traditional or other type of drink\" \x7b _1099 \"Other (specify)\" \x7d fix "
              ++ "\x7d ;") 1))
        ] :=
  Report.exists_of_toOption_map (by decide +kernel)

/-- The list whose name ends with a line feed does not open itself, and the other one does. -/
theorem opensItself_iff_lineFeed :
    Config.load .builtIn lineFeedText = .ok lineFeed ∧
      ∃ made, (run lineFeed .dimensions (treeIn "Sweden") ⟨"", ["m"]⟩).outcome = .ok made ∧
        made.blocks.map Block.name = ["C_SE", "T\n_SE"] ∧
        ∀ block ∈ made.blocks, OpensItself block ↔ '\n' ∉ block.name.toList := by
  obtain ⟨made, ok, tokens⟩ := exists_run_lineFeed
  have names := congrArg (List.map Prod.fst) tokens
  rw [List.map_map] at names
  exact ⟨load_lineFeedText, made, ok, names, (opensItself_iff_of_load load_lineFeedText ok).2⟩

/-- A list of an accepted configuration that does not open itself: its text begins with a fragment that is
no part of a definition. -/
theorem not_opensItself_lineFeed :
    Config.load .builtIn lineFeedText = .ok lineFeed ∧
      ∃ made, (run lineFeed .dimensions (treeIn "Sweden") ⟨"", ["m"]⟩).outcome = .ok made ∧
        ∃ block ∈ made.blocks, ¬OpensItself block := by
  obtain ⟨made, ok, tokens⟩ := exists_run_lineFeed
  have second := congrArg (fun all => all[1]?) tokens
  simp only [List.getElem?_map] at second
  obtain ⟨block, there, beginning⟩ := Option.map_eq_some_iff.1 second
  refine ⟨load_lineFeedText, made, ok, block, List.mem_of_getElem? there, ?_⟩
  rintro ⟨line, opens⟩
  cases (Prod.mk.inj beginning).2.symm.trans opens

end Compilation

end Codebook
