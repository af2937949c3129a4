import Codebook.Catalog.Building
import Codebook.Proofs.Sheet.Columns

/-!
# What a catalog is made of

A row of a table gives an entry exactly if it has a label, a code and a category (`exists_entryOf_iff`).
Building the catalog of a table fails for a column of codes that has no name, and without a row that gives an
entry, and then nothing is noted (`build_of_no_entry`). All this is about tables whose columns have numbers, as
those that are loaded from a sheet.
-/

namespace Codebook.Catalog

/-! ## Rows that give entries -/

/-- Whether a row gives an entry: it has a label, a code and a category. -/
def GivesEntry (labels : Row) (codeColumn : String) (categoryStart : Number) (row : Row) : Prop :=
  (row.filled? labelColumn).isSome = true ∧ (row.filled? codeColumn).isSome = true ∧
    ∃ codes, Flags.resolveCodes labels row categoryStart = .ok codes ∧ codes ≠ []

/-- Whether the columns of a row have numbers. -/
def IsNumbered (row : Row) : Prop :=
  ∀ cell ∈ row, ∃ n, Column.index cell.1 = .ok n

section Rows

variable {labels row : Row} {codeColumn : String} {shape : Shape}

theorem resolveCodes_ok (numberedLabels : IsNumbered labels) (numbered : IsNumbered row)
    (start : Number) : ∃ codes, Flags.resolveCodes labels row start = .ok codes := by
  have both : ∀ r ∈ [labels, row], ∀ cell ∈ r, ∃ n, Column.index cell.1 = .ok n :=
    List.forall_mem_cons.2 ⟨numberedLabels, List.forall_mem_singleton.2 numbered⟩
  obtain ⟨columns, ok⟩ := Row.exists_numberedColumns both
  exact ⟨_, by rw [Flags.resolveCodes, ok]; rfl⟩

/-- A row gives an entry if it has all that makes one, and otherwise none. -/
theorem entryOf_ok (numberedLabels : IsNumbered labels) (numbered : IsNumbered row) (codeColumn : String)
    (shape : Shape) :
    (GivesEntry labels codeColumn shape.categoryStart row ∧
        ∃ entry, entryOf labels codeColumn shape row = .ok (some entry)) ∨
      (¬GivesEntry labels codeColumn shape.categoryStart row ∧
        entryOf labels codeColumn shape row = .ok none) := by
  obtain ⟨codes, resolved⟩ := resolveCodes_ok numberedLabels numbered shape.categoryStart
  unfold entryOf GivesEntry
  cases row.filled? labelColumn with
  | none => exact .inr ⟨by simp, rfl⟩
  | some label =>
    cases row.filled? codeColumn with
    | none => exact .inr ⟨by simp, rfl⟩
    | some code =>
      rw [resolved]
      cases codes with
      | nil => exact .inr ⟨by simp, rfl⟩
      | cons first others => exact .inl ⟨by simp, _, rfl⟩

theorem exists_entryOf_iff (numberedLabels : IsNumbered labels) (numbered : IsNumbered row) :
    (∃ entry, entryOf labels codeColumn shape row = .ok (some entry)) ↔
      GivesEntry labels codeColumn shape.categoryStart row := by
  rcases entryOf_ok numberedLabels numbered codeColumn shape with ⟨gives, made⟩ | ⟨none, made⟩
  · exact ⟨fun _ => gives, fun _ => made⟩
  · refine ⟨fun ⟨_, other⟩ => ?_, fun gives => absurd gives none⟩
    cases made.symm.trans other

end Rows

/-! ## Entries -/

section Entries

variable {place : Place} {labels : Row} {codeColumn : String} {shape : Shape} {rows : List Row}

theorem exists_entriesFrom (each : ∀ row ∈ rows, ∃ made, entryOf labels codeColumn shape row = .ok made)
    (place : Place) (seen : List String) :
    ∃ entries, (entriesFrom place labels codeColumn shape seen rows).outcome = .ok entries := by
  induction rows generalizing seen with
  | nil => exact ⟨[], rfl⟩
  | cons row rest ih =>
    obtain ⟨⟨made, given⟩, others⟩ := List.forall_mem_cons.1 each
    rw [entriesFrom, given]
    cases made with
    | none => exact ih others seen
    | some entry =>
      show ∃ entries, Report.outcome (if seen.contains entry.code = true then _ else _) = _
      split
      · obtain ⟨entries, later⟩ := ih others seen
        exact ⟨entries, (Report.outcome_bind _ _).trans later⟩
      · obtain ⟨entries, later⟩ := ih others (entry.code :: seen)
        exact ⟨entry :: entries, by rw [Report.outcome_bind, later]; rfl⟩

/-- Rows that give no entry leave no trace. -/
theorem entriesFrom_of_none (none : ∀ row ∈ rows, entryOf labels codeColumn shape row = .ok none)
    (seen : List String) : entriesFrom place labels codeColumn shape seen rows = pure [] := by
  induction rows with
  | nil => rfl
  | cons row rest ih =>
    obtain ⟨given, others⟩ := List.forall_mem_cons.1 none
    rw [entriesFrom, given, ← ih others]
    rfl

/-- The first row that gives an entry has one in the catalog. -/
theorem ne_nil_of_entriesFrom {entries : List Entry}
    (ok : (entriesFrom place labels codeColumn shape [] rows).outcome = .ok entries)
    {row : Row} (member : row ∈ rows) {entry : Entry}
    (given : entryOf labels codeColumn shape row = .ok (some entry)) : entries ≠ [] := by
  induction rows with
  | nil => cases member
  | cons first rest ih =>
    rw [entriesFrom] at ok
    obtain ⟨made, here, ok⟩ := Report.exists_of_bind_ok ok
    have made_eq : entryOf labels codeColumn shape first = .ok made := here
    cases made with
    | none =>
      rcases List.mem_cons.1 member with rfl | member
      · cases made_eq.symm.trans given
      · exact ih ok member
    | some own =>
      obtain ⟨later, _, ok⟩ := Report.exists_of_bind_ok ok
      cases ok
      exact List.cons_ne_nil _ _

end Entries

/-! ## Catalogs -/

/-- Whether a table has a row that gives an entry; its column of codes has a name then. -/
def HasEntry (shape : Shape) (table : List Row) : Prop :=
  ∃ labels rows codeColumn, table = labels :: rows ∧ Column.nameOf shape.codeColumn = .ok codeColumn ∧
    ∃ row ∈ rows, GivesEntry labels codeColumn shape.categoryStart row

section Build

variable {place : Place} {shape : Shape}

theorem build_of_unnamed {e : ColumnError} (unnamed : Column.nameOf shape.codeColumn = .error e)
    (labels : Row) (rows : List Row) :
    build place shape (labels :: rows) = Report.fail (.column e) := by
  rw [build, unnamed]
  rfl

theorem build_of_named {codeColumn : String} (name : Column.nameOf shape.codeColumn = .ok codeColumn)
    (labels : Row) (rows : List Row) :
    build place shape (labels :: rows) = do
      let entries ← entriesFrom place labels codeColumn shape [] rows
      if entries.isEmpty then Report.fail (.emptyList place.list)
      else
        Report.event .debug (place.list ++ ": " ++ toString entries.length ++ " entries")
        return ⟨place.list, entries⟩ := by
  rw [build, name]
  rfl

variable {table : List Row} (numbered : ∀ row ∈ table, IsNumbered row)
include numbered

/-- Where no row gives an entry, the list is empty, and nothing is noted. -/
theorem build_of_no_entry (none : ¬HasEntry shape table)
    (named : table ≠ [] → ∃ codeColumn, Column.nameOf shape.codeColumn = .ok codeColumn) :
    (build place shape table).outcome = .error (.emptyList place.list) ∧
      (build place shape table).journal.issues = [] := by
  cases table with
  | nil => exact ⟨rfl, rfl⟩
  | cons labels rows =>
    obtain ⟨codeColumn, name⟩ := named (List.cons_ne_nil _ _)
    obtain ⟨numberedLabels, numberedRows⟩ := List.forall_mem_cons.1 numbered
    have noneGiven : ∀ row ∈ rows, entryOf labels codeColumn shape row = .ok Option.none := by
      intro row member
      rcases entryOf_ok numberedLabels (numberedRows row member) codeColumn shape with
        ⟨gives, _⟩ | ⟨_, made⟩
      · exact absurd ⟨labels, rows, codeColumn, rfl, name, row, member, gives⟩ none
      · exact made
    rw [build_of_named name, entriesFrom_of_none noneGiven]
    exact ⟨rfl, rfl⟩

theorem exists_build (has : HasEntry shape table) :
    ∃ c, (build place shape table).outcome = .ok c := by
  obtain ⟨labels, rows, codeColumn, rfl, name, row, member, gives⟩ := has
  obtain ⟨numberedLabels, numberedRows⟩ := List.forall_mem_cons.1 numbered
  have each : ∀ row ∈ rows, ∃ made, entryOf labels codeColumn shape row = .ok made := by
    intro row member
    rcases entryOf_ok numberedLabels (numberedRows row member) codeColumn shape with
      ⟨_, _, made⟩ | ⟨_, made⟩ <;> exact ⟨_, made⟩
  obtain ⟨entries, made⟩ := exists_entriesFrom each place []
  obtain ⟨entry, given⟩ :=
    (exists_entryOf_iff numberedLabels (numberedRows row member)).2 gives
  obtain ⟨first, others, rfl⟩ := List.exists_cons_of_ne_nil (ne_nil_of_entriesFrom made member given)
  refine ⟨⟨place.list, first :: others⟩, ?_⟩
  rw [build_of_named name, Report.bind_of_ok made]
  rfl

end Build

end Codebook.Catalog
