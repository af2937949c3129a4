import Codebook.Proofs.Run.Platforms

/-!
# What a run exports

The run for the platform that reads definition texts makes a text for each catalog and for the taxonomy, and
one of them all together. Their names are those of the lists with the market code, so they are apart exactly
if the names in the settings are, and none of these is that of the combined text; and there are figures for
each list exactly if no two lists have one name (`exports_run`).
-/

namespace Codebook

open Definition

/-! ## Names -/

/-- The name of the combined text, without the market code. -/
def allListsName : String := "ALL_LISTS"

/-- Where the names of a bundle are apart, each of its artifacts is found under its own. -/
theorem Bundle.get?_of_nodup {bundle : Bundle} (distinct : bundle.names.Nodup) {artifact : Artifact}
    (member : artifact ∈ bundle.artifacts) : bundle.get? artifact.name = some artifact :=
  Keyed.find?_of_nodup distinct member

namespace Compilation

/-! ## The parts of a draft -/

/-- A draft has the catalogs of the settings in their order, and the taxonomy. -/
theorem parts_of_draft {settings : Settings} {file : String} {workbook : Workbook} {d : Draft}
    (ok : (draft settings file workbook).outcome = .ok d) :
    List.Forall₂ (fun list catalog =>
        (buildCatalog settings workbook file d.market list).outcome = .ok catalog)
      settings.catalogLists d.catalogs ∧
      (buildTaxonomy settings workbook file d.market).outcome = .ok d.taxonomy := by
  obtain ⟨_, _, ok⟩ := Report.exists_of_bind_ok ok
  obtain ⟨⟨shown, market⟩, _, ok⟩ := Report.exists_of_bind_ok ok
  obtain ⟨catalogs, built, ok⟩ := Report.exists_of_bind_ok ok
  obtain ⟨taxonomy, last, ok⟩ := Report.exists_of_bind_ok ok
  cases ok
  rw [Report.outcome_mapM] at built
  exact ⟨Report.forall₂_of_mapM built, last⟩

/-! ## Artifacts and figures -/

/-- The number of entries of each list of a draft, under its name. -/
def Draft.counts (d : Draft) : List (String × Nat) :=
  (d.catalogs.map fun c => (c.name, c.entries.length)) ++ [(d.taxonomy.name, d.taxonomy.categoryCount)]

/-- The figures of a list whose rows are in no table. -/
def textStat (count : String × Nat) : ListStat :=
  ⟨count.1, count.2, 0⟩

section Draft

variable {settings : Settings} {d : Draft}

theorem map_fst_counts : d.counts.map Prod.fst = d.blocks.map Block.name := by
  rw [Draft.counts, Draft.blocks, List.map_append, List.map_append, List.map_map, List.map_map]
  rfl

theorem names_texts_eq : d.texts.bundle.names =
    (d.blocks.map fun b => b.name ++ ".txt") ++ [listName allListsName d.market ++ ".txt"] := by
  show (Export.textArtifacts d.market d.blocks).map Artifact.name = _
  rw [Export.textArtifacts, List.map_append, List.map_map, listName]
  rfl

/-- Without tables there are no rows to count. -/
theorem statsOf_nil (entries : Keyed String Nat) : statsOf entries [] = entries.map textStat := by
  have none : (ImportRow.distinct []).length = 0 := by
    rw [ImportRow.distinct, ImportRow.firsts, ImportRow.firstsFrom, List.mergeSort_nil]
    rfl
  refine List.map_congr_left fun counted _ => ?_
  obtain ⟨name, count⟩ := counted
  show (⟨name, count, (ImportRow.distinct []).length⟩ : ListStat) = ⟨name, count, 0⟩
  rw [none]
  rfl

variable (names : d.blocks.map Block.name = settings.listNames d.market)
include names

theorem names_texts : d.texts.bundle.names =
    (settings.baseNames ++ [allListsName]).map fun base => listName base d.market ++ ".txt" := by
  have own : (d.blocks.map fun b => b.name ++ ".txt") =
      settings.baseNames.map fun base => listName base d.market ++ ".txt" := by
    have suffixed := congrArg (List.map (· ++ ".txt")) names
    rwa [List.map_map, Settings.listNames, List.map_map] at suffixed
  rw [names_texts_eq, own, List.map_append]
  rfl

/-- The names of the artifacts are apart exactly if those of the lists are, and none of these is the name of
the combined text. -/
theorem nodup_names_texts : d.texts.bundle.names.Nodup ↔
    settings.baseNames.Nodup ∧ allListsName ∉ settings.baseNames := by
  have apart : Function.Injective fun base => listName base d.market ++ ".txt" := fun a b same =>
    listName_inj.1 ((String.append_left_inj _).1 same)
  rw [names_texts names, List.nodup_map_iff apart, List.nodup_append]
  constructor
  · rintro ⟨distinct, _, others⟩
    exact ⟨distinct, fun member => others _ member _ List.mem_cons_self rfl⟩
  · rintro ⟨distinct, fresh⟩
    refine ⟨distinct, List.nodup_singleton _, fun base member last same => ?_⟩
    rintro rfl
    rw [List.mem_singleton.1 same] at member
    exact fresh member

theorem map_list_stats : d.texts.stats.map ListStat.list = (settings.listNames d.market).eraseDups := by
  show (statsOf (Keyed.ofList d.counts) []).map ListStat.list = _
  rw [statsOf_nil, List.map_map, ← names, ← map_fst_counts, ← Keyed.map_fst_ofList]
  rfl

/-- Each list has its own figures exactly if the names of the lists are apart. -/
theorem stats_texts_eq_iff :
    d.texts.stats = d.counts.map textStat ↔ settings.baseNames.Nodup := by
  have listed : d.counts.map Prod.fst = settings.listNames d.market := map_fst_counts.trans names
  have injective : Function.Injective fun base => listName base d.market := fun a b => listName_inj.1
  have made : d.texts.stats = (Keyed.ofList d.counts).map textStat := statsOf_nil _
  rw [made, ← List.nodup_map_iff injective, ← Settings.listNames, ← listed]
  constructor
  · intro same
    have keys := congrArg (List.map ListStat.list) same
    rw [List.map_map, List.map_map] at keys
    exact Keyed.nodup_of_map_fst_ofList keys
  · intro distinct
    rw [Keyed.ofList_eq_self distinct]

end Draft

/-! ## Exports -/

/-- Whether a compilation of definition texts has a text for each list, those of the catalogs first, and one
of them all together, and what has to be apart for each to have its own name and its own figures. -/
structure Exports (settings : Settings) (made : Compilation) (catalogs : List Catalog)
    (taxonomy : Taxonomy) : Prop where
  blocks : made.blocks = catalogs.map renderCatalog ++ [renderTaxonomy taxonomy]
  artifacts : made.bundle.artifacts =
    (made.blocks.map fun b => ⟨b.name ++ ".txt", .text b.text⟩)
      ++ [⟨listName allListsName made.market ++ ".txt", .text (Block.allText made.blocks)⟩]
  named : made.blocks.map Block.name = settings.listNames made.market
  apart : made.bundle.names.Nodup ↔ settings.baseNames.Nodup ∧ allListsName ∉ settings.baseNames
  found : made.bundle.names.Nodup →
    ∀ artifact ∈ made.bundle.artifacts, made.bundle.get? artifact.name = some artifact
  listed : made.stats.map ListStat.list = (settings.listNames made.market).eraseDups
  figures : made.stats = (catalogs.map fun c => ⟨c.name, c.entries.length, 0⟩)
      ++ [⟨taxonomy.name, taxonomy.categoryCount, 0⟩] ↔
    settings.baseNames.Nodup

theorem exports_texts {settings : Settings} {d : Draft}
    (names : d.blocks.map Block.name = settings.listNames d.market) :
    Exports settings d.texts d.catalogs d.taxonomy where
  blocks := rfl
  artifacts := by
    show Export.textArtifacts d.market d.blocks = _
    rw [Export.textArtifacts, listName]
    rfl
  named := names
  apart := nodup_names_texts names
  found := fun distinct _ => Bundle.get?_of_nodup distinct
  listed := map_list_stats names
  figures := by
    rw [← stats_texts_eq_iff names, Draft.counts, List.map_append, List.map_map]
    rfl

/-- A run for the platform that reads definition texts exports each list of the settings. The names are apart
exactly if those of the settings are and none is that of the combined text; each list has its own figures
exactly if the names of the settings are apart. -/
theorem exports_run {settings : Settings} {tree : FileTree} {path : Path} {made : Compilation}
    (ok : (run settings .dimensions tree path).outcome = .ok made) :
    ∃ workbook catalogs taxonomy,
      readWorkbook tree path settings.requiredSheets.contains = .ok workbook ∧
      List.Forall₂ (fun list catalog =>
          (buildCatalog settings workbook path.name made.market list).outcome = .ok catalog)
        settings.catalogLists catalogs ∧
      (buildTaxonomy settings workbook path.name made.market).outcome = .ok taxonomy ∧
      Exports settings made catalogs taxonomy := by
  rw [run_eq] at ok
  obtain ⟨d, drafted, finished⟩ := Report.exists_of_bind_ok ok
  rw [finish_dimensions] at finished
  cases finished
  obtain ⟨workbook, read, made⟩ := exists_workbook_of_draftAt drafted
  obtain ⟨catalogs, taxonomy⟩ := parts_of_draft made
  exact ⟨workbook, d.catalogs, d.taxonomy, read, catalogs, taxonomy,
    exports_texts (map_name_draftAt drafted)⟩

/-- The two lists of a small run are exported under their own names and counted on their own. -/
theorem exports_run_small :
    ∃ made, (run small .dimensions smallTree ⟨"", ["m"]⟩).outcome = .ok made ∧
      (∃ catalogs taxonomy, Exports small made catalogs taxonomy) ∧ made.bundle.names.Nodup ∧
      made.bundle.names = ["C_S.txt", "T_S.txt", "ALL_LISTS_S.txt"] ∧
      made.stats = [⟨"C_S", 1, 0⟩, ⟨"T_S", 1, 0⟩] := by
  have names : (run small .dimensions smallTree ⟨"", ["m"]⟩).outcome.toOption.map
      (fun made => (made.bundle.names, made.stats)) =
        some (["C_S.txt", "T_S.txt", "ALL_LISTS_S.txt"], [⟨"C_S", 1, 0⟩, ⟨"T_S", 1, 0⟩]) := by
    decide +kernel
  cases ok : (run small .dimensions smallTree ⟨"", ["m"]⟩).outcome with
  | error failure =>
    rw [ok] at names
    cases names
  | ok made =>
    rw [ok] at names
    have both := Prod.mk.inj (Option.some.inj names)
    obtain ⟨workbook, catalogs, taxonomy, _, _, _, exported⟩ := exports_run ok
    exact ⟨made, rfl, ⟨catalogs, taxonomy, exported⟩, exported.apart.2 (by decide), both⟩

/-- The settings of a small run with other names of catalogs, which are all of one sheet. -/
def smallWith (names : List String) : Settings :=
  { small with catalogLists := names.map fun name => ⟨name, "C", .whole 1, .whole 1, false⟩ }

/-- Two catalogs with one name have one name for two texts, and figures for one of them. A catalog with the
name of the combined text has a text with the name of that. -/
theorem not_nodup_names_smallWith :
    ((run (smallWith ["C", "C"]) .dimensions smallTree ⟨"", ["m"]⟩).outcome.toOption.map fun made =>
        (made.bundle.names, made.stats)) =
      some (["C_S.txt", "C_S.txt", "T_S.txt", "ALL_LISTS_S.txt"], [⟨"C_S", 1, 0⟩, ⟨"T_S", 1, 0⟩]) ∧
    ((run (smallWith ["ALL_LISTS"]) .dimensions smallTree ⟨"", ["m"]⟩).outcome.toOption.map fun made =>
        made.bundle.names) = some ["ALL_LISTS_S.txt", "T_S.txt", "ALL_LISTS_S.txt"] := by
  decide +kernel

end Compilation

end Codebook
