import Codebook.Catalog.Building
import Codebook.Proofs.Sheet.Content
import Codebook.Proofs.Text.Blank
import Codebook.Taxonomy.Building

/-!
# Lists of tables that show the same

The catalog of a table and the taxonomy of two tables depend on what the tables show: the texts of the labels and
of the rows that are not blank. Blank rows and columns behind the last text make no difference
(`Catalog.build_of_shows`, `Taxonomy.build_congr`).
-/

namespace Codebook

/-! ## The narrowest table -/

namespace Table

/-- The table with the given labels and other rows that is `width` columns wide. -/
def ofTexts (width : Nat) (labels : Texts) (records : List Texts) : List Row :=
  Row.ofTexts width labels :: records.map (Row.ofTexts width)

/-- What can be read off the narrowest table with certain texts is the same for all tables that show them. -/
theorem Shows.eq_of_narrow {α : Type} (f : List Row → α) {labels : Texts} {records : List Texts}
    (narrow : ∀ {width wider : Nat} {table : List Row}, Shows labels records wider table → width ≤ wider →
      (∀ texts ∈ labels :: records, texts.Within width) → f table = f (ofTexts width labels records))
    {width width' : Nat} {table table' : List Row} (shows : Shows labels records width table)
    (shows' : Shows labels records width' table') : f table = f table' := by
  have within : ∀ texts ∈ labels :: records, texts.Within (min width width') := by
    intro texts member place behind
    rcases (by omega : width ≤ place ∨ width' ≤ place) with behind | behind
    · exact shows.within texts member place behind
    · exact shows'.within texts member place behind
  rw [narrow shows (Nat.min_le_left ..) within, narrow shows' (Nat.min_le_right ..) within]

end Table

/-! ## Catalogs -/

namespace Catalog

variable {place : Place} {labels : Texts} {records : List Texts} {codeColumn : String} {shape : Shape}

theorem entryOf_of_isBlank {row : Row} (blank : row.isBlank = true) (labels : Row) :
    entryOf labels codeColumn shape row = .ok none := by
  rw [entryOf, Row.filled?_of_isBlank blank]
  rfl

/-- Blank rows give no entry and leave no trace. -/
theorem entriesFrom_filter (labels : Row) (seen : List String) (rows : List Row) :
    entriesFrom place labels codeColumn shape seen rows =
      entriesFrom place labels codeColumn shape seen (rows.filter fun row => !row.isBlank) := by
  induction rows generalizing seen with
  | nil => rfl
  | cons row rest ih =>
    rw [List.filter_cons]
    cases blank : row.isBlank with
    | true =>
      rw [if_neg (by decide), entriesFrom, entryOf_of_isBlank blank, ← ih]
      rfl
    | false =>
      rw [if_pos (by decide), entriesFrom, entriesFrom]
      simp only [ih]

theorem entriesFrom_ofTexts {width wider : Nat} (le : width ≤ wider) (small : wider ≤ Column.greatest)
    (within : ∀ texts ∈ records, texts.Within width) (labels : Texts) (seen : List String) :
    entriesFrom place (Row.ofTexts wider labels) codeColumn shape seen (records.map (Row.ofTexts wider)) =
      entriesFrom place (Row.ofTexts width labels) codeColumn shape seen
        (records.map (Row.ofTexts width)) := by
  induction records generalizing seen with
  | nil => rfl
  | cons texts rest ih =>
    obtain ⟨first, others⟩ := List.forall_mem_cons.1 within
    have entry : entryOf (Row.ofTexts wider labels) codeColumn shape (Row.ofTexts wider texts) =
        entryOf (Row.ofTexts width labels) codeColumn shape (Row.ofTexts width texts) := by
      rw [entryOf, entryOf, Row.filled?_ofTexts first le, Row.filled?_ofTexts first le,
        Flags.resolveCodes_ofTexts first le small]
    rw [List.map_cons, List.map_cons, entriesFrom, entriesFrom, entry, Row.text?_ofTexts first le]
    simp only [ih others]

/-- Tables that show the same make the same catalog. -/
theorem build_of_shows {width width' : Nat} {table table' : List Row}
    (shows : Table.Shows labels records width table) (shows' : Table.Shows labels records width' table') :
    build place shape table = build place shape table' := by
  refine Table.Shows.eq_of_narrow (build place shape) (fun {width wider table} shows le within => ?_)
    shows shows'
  obtain ⟨rest, rfl, kept⟩ := shows.split
  have entries (codeColumn : String) :
      entriesFrom place (Row.ofTexts wider labels) codeColumn shape [] rest =
        entriesFrom place (Row.ofTexts width labels) codeColumn shape []
          (records.map (Row.ofTexts width)) := by
    rw [entriesFrom_filter, kept,
      entriesFrom_ofTexts le shows.narrow fun texts member => within texts (.tail _ member)]
  rw [build, Table.ofTexts, build]
  simp only [entries]

end Catalog

/-! ## Taxonomies -/

namespace Taxonomy

open Row Flags

theorem flagColumn?_eq {width : Nat} (small : width ≤ Column.greatest) (labels : Texts) (code : String) :
    flagColumn? (ofTexts width labels) code =
      .ok (((List.range width).filter fun place => extractCode (labels place) == code).getLast?.map
        fun place => Column.name (place + 1)) := by
  have columns : orderedColumns [ofTexts width labels] = .ok ((Column.numbered width).map Prod.fst) := by
    have numbered : numberedColumns [ofTexts width labels] = .ok (Column.numbered width) :=
      numberedColumns_ofTexts small labels []
    rw [orderedColumns, numbered]
    rfl
  have found : ((Column.numbered width).map Prod.fst).filter (fun column =>
        extractCode ((ofTexts width labels).text? column) == code) =
      ((List.range width).filter fun place => extractCode (labels place) == code).map
        fun place => Column.name (place + 1) := by
    rw [Column.numbered, List.map_map, List.filter_map]
    refine congrArg _ (List.filter_congr fun place inside => ?_)
    exact congrArg (fun text => extractCode text == code)
      (text?_name small (List.mem_range.1 inside) labels)
  rw [flagColumn?, columns, ← List.getLast?_map, ← found, ← List.head?_reverse, ← List.filter_reverse,
    List.head?_filter]
  rfl

/-- Columns behind the last label are none of a code. -/
theorem flagColumn?_ofTexts {labels : Texts} {width wider : Nat} (within : labels.Within width)
    (le : width ≤ wider) (small : wider ≤ Column.greatest) {code : String} (named : code ≠ "") :
    flagColumn? (ofTexts wider labels) code = flagColumn? (ofTexts width labels) code := by
  rw [flagColumn?_eq small, flagColumn?_eq (Nat.le_trans le small), filter_range_of_le le]
  intro place behind
  rw [within place behind]
  exact beq_eq_false_iff_ne.2 fun same => named same.symm

section Tables

variable {labels : Texts} {records : List Texts} {width width' : Nat} {table table' : List Row}
  (shows : Table.Shows labels records width table) (shows' : Table.Shows labels records width' table')
include shows shows'

/-- Tables that show the same have the same candidates. -/
theorem candidates_of_shows (marker : String) :
    (table.drop 1).filterMap (candidate? marker) = (table'.drop 1).filterMap (candidate? marker) := by
  refine Table.Shows.eq_of_narrow (fun table => (table.drop 1).filterMap (candidate? marker))
    (fun {width wider table} shows le within => ?_) shows shows'
  obtain ⟨rest, rfl, kept⟩ := shows.split
  have blanks : rest.filterMap (candidate? marker) =
      (rest.filter fun row => !row.isBlank).filterMap (candidate? marker) := by
    rw [List.filterMap_filter]
    refine List.filterMap_congr fun row _ => ?_
    cases blank : row.isBlank with
    | true => rw [candidate?, Row.filled?_of_isBlank blank]; rfl
    | false => rfl
  rw [Table.ofTexts, List.drop_one, List.drop_one, List.tail_cons, List.tail_cons, blanks, kept,
    List.filterMap_map, List.filterMap_map]
  refine List.filterMap_congr fun texts member => ?_
  have inside := within texts (.tail _ member)
  show candidate? marker (Row.ofTexts wider texts) = candidate? marker (Row.ofTexts width texts)
  rw [candidate?, candidate?]
  simp only [Row.filled?_ofTexts inside le, Row.text?_ofTexts inside le]

/-- Tables that show the same have the same containers for each code that is not empty. -/
theorem containerCodes_of_shows {code : String} (named : code ≠ "") :
    containerCodes table code = containerCodes table' code := by
  refine Table.Shows.eq_of_narrow (fun table => containerCodes table code)
    (fun {width wider table} shows le within => ?_) shows shows'
  obtain ⟨rest, rfl, kept⟩ := shows.split
  have codes (column : String) :
      (rest.filter fun row => Flags.isAffirmative (row.text? column)).filterMap
          (fun row => (row.filled? containerColumn).map Text.trim) =
        ((records.map (Row.ofTexts width)).filter fun row =>
          Flags.isAffirmative (row.text? column)).filterMap
            fun row => (row.filled? containerColumn).map Text.trim := by
    have blanks : (rest.filter fun row => Flags.isAffirmative (row.text? column)) =
        (rest.filter fun row => !row.isBlank).filter fun row =>
          Flags.isAffirmative (row.text? column) := by
      rw [List.filter_filter]
      refine List.filter_congr fun row _ => ?_
      cases blank : row.isBlank with
      | true => rw [Row.text?_of_isBlank blank]; rfl
      | false => exact (Bool.and_true _).symm
    rw [blanks, kept, List.filterMap_filter, List.filterMap_filter, List.filterMap_map,
      List.filterMap_map]
    refine List.filterMap_congr fun texts member => ?_
    have inside := within texts (.tail _ member)
    show (if Flags.isAffirmative ((Row.ofTexts wider texts).text? column) = true then _ else _) = _
    rw [Row.text?_ofTexts inside le, Row.filled?_ofTexts inside le]
    rfl
  rw [containerCodes, Table.ofTexts, containerCodes,
    flagColumn?_ofTexts (within labels List.mem_cons_self) le shows.narrow named]
  simp only [codes]

end Tables

theorem code_of_candidate {labels : Texts} {records : List Texts} {width : Nat} {table : List Row}
    (shows : Table.Shows labels records width table) {marker : String} {c : Candidate}
    (member : c ∈ (table.drop 1).filterMap (candidate? marker)) : c.code ≠ "" := by
  obtain ⟨row, among, made⟩ := List.mem_filterMap.1 member
  obtain ⟨rest, rfl, kept⟩ := shows.split
  rw [candidate?] at made
  obtain ⟨label, -, made⟩ := Option.bind_eq_some_iff.1 made
  obtain ⟨code, filled, made⟩ := Option.bind_eq_some_iff.1 made
  obtain ⟨definition, -, made⟩ := Option.bind_eq_some_iff.1 made
  have dark : row.isBlank = false := by
    rw [← Bool.not_eq_true]
    intro blank
    cases (Row.filled?_of_isBlank blank "B").symm.trans filled
  have there : row ∈ rest.filter fun row => !row.isBlank :=
    List.mem_filter.2 ⟨among, by rw [dark]; rfl⟩
  rw [kept] at there
  obtain ⟨texts, recorded, rfl⟩ := List.mem_map.1 there
  obtain ⟨place, text⟩ := Row.exists_place (Option.filter_eq_some_iff.1 filled).1
  have named := Text.trim_ne_empty (shows.told texts recorded place code text)
  split at made
  · cases made
    exact named
  · cases made

section Sources

variable {workbook list marker : String} {containers containers' : List Row}

/-- The containers matter only for the codes of the candidates. -/
theorem keep_congr {found : List Candidate}
    (same : ∀ c ∈ found, containerCodes containers c.code = containerCodes containers' c.code) :
    keep ⟨workbook, list, marker, containers⟩ found = keep ⟨workbook, list, marker, containers'⟩ found := by
  induction found with
  | nil => rfl
  | cons c rest ih =>
    obtain ⟨first, others⟩ := List.forall_mem_cons.1 same
    rw [keep, keep, ih others, first]
    rfl

/-- The candidates and their containers make the taxonomy. -/
theorem build_congr {table table' : List Row}
    (found : (table.drop 1).filterMap (candidate? marker) = (table'.drop 1).filterMap (candidate? marker))
    (same : ∀ c ∈ (table.drop 1).filterMap (candidate? marker),
      containerCodes containers c.code = containerCodes containers' c.code) :
    build ⟨workbook, list, marker, containers⟩ table = build ⟨workbook, list, marker, containers'⟩ table' := by
  rw [build, build, keep_congr same, found]
  rfl

end Sources

end Taxonomy

end Codebook
