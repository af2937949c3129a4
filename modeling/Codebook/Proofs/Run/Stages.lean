import Codebook.Proofs.Run.Market
import Codebook.Proofs.Run.Platforms
import Codebook.Proofs.Sheet.Loading

/-!
# The first stages of a run

A run checks the sheets and reads the country before it builds a list. For both stages it is said when they
succeed, which failure they tell the user of the run and why (`checkSheets_cases`, `unknown_of_readMarket`), and
when reading the country fails without telling (`readMarket_escapes_iff`). What is told comes to the issue log,
behind the warnings.
-/

namespace Codebook

open Definition ImportRow Text

/-! ## Failures that are not told -/

namespace Report

variable {α β : Type}

/-- Whether a computation fails for a reason that is not told to the user of a run. -/
def Escapes (r : Report α) : Prop :=
  ∃ failure, r.outcome = .error failure ∧ failure.issueKind? = none

theorem escapes_bind_iff {first : Report α} {next : α → Report β} :
    (first >>= next).Escapes ↔ first.Escapes ∨ ∃ a, first.outcome = .ok a ∧ (next a).Escapes := by
  simp only [Escapes, bind_eq_error_iff]
  constructor
  · rintro ⟨failure, failed | ⟨a, made, failed⟩, untold⟩
    · exact .inl ⟨failure, failed, untold⟩
    · exact .inr ⟨a, made, failure, failed, untold⟩
  · rintro (⟨failure, failed, untold⟩ | ⟨a, made, failure, failed, untold⟩)
    · exact ⟨failure, .inl failed, untold⟩
    · exact ⟨failure, .inr ⟨a, made, failed⟩, untold⟩

theorem not_escapes_of_ok {r : Report α} {a : α} (ok : r.outcome = .ok a) : ¬r.Escapes := by
  rintro ⟨failure, failed, _⟩
  cases ok.symm.trans failed

end Report

namespace Compilation

variable {settings : Settings} {workbook : Workbook} {file market : String}

/-! ## Sheets -/

/-- Either all sheets are there, or the first one that is not is told. -/
theorem checkSheets_cases (workbook : Workbook) (required : List String) :
    ((∀ sheet ∈ required, workbook.has sheet = true) ∧ checkSheets workbook required = pure ()) ∨
      ∃ before sheet after, required = before ++ sheet :: after ∧
        (∀ earlier ∈ before, workbook.has earlier = true) ∧ workbook.has sheet = false ∧
          checkSheets workbook required = Report.fail (.missingSheet sheet) := by
  rw [checkSheets]
  cases absent : required.find? fun sheet => !workbook.has sheet with
  | none =>
    have all := List.find?_eq_none.1 absent
    refine .inl ⟨fun sheet member => ?_, rfl⟩
    simpa using all sheet member
  | some sheet =>
    obtain ⟨missing, before, after, split, earlier⟩ := List.find?_eq_some_iff_append.1 absent
    refine .inr ⟨before, sheet, after, split, fun other member => ?_, by simpa using missing, rfl⟩
    simpa using earlier other member

theorem checkSheets_of_present {required : List String}
    (sheets : ∀ sheet ∈ required, workbook.has sheet = true) :
    checkSheets workbook required = pure () := by
  rcases checkSheets_cases workbook required with ⟨_, checked⟩ | ⟨_, sheet, _, split, _, missing, _⟩
  · exact checked
  · have among : sheet ∈ required := by
      rw [split]
      exact List.mem_append_right _ List.mem_cons_self
    cases missing.symm.trans (sheets sheet among)

/-- The sheets that a run reads are those of the index, of the lists and of the taxonomy. -/
theorem mem_requiredSheets {sheet : String} :
    sheet ∈ settings.requiredSheets ↔ sheet = settings.indexSheet ∨
      (∃ list ∈ settings.catalogLists, list.sheet = sheet) ∨
        sheet = settings.taxonomy.categorySheet ∨ sheet = settings.taxonomy.containerSheet := by
  rw [Settings.requiredSheets, List.mem_eraseDups, List.cons_append, List.mem_cons, List.mem_append,
    List.mem_map, List.mem_pair]

section Present

variable (present : ∀ sheet ∈ settings.requiredSheets, workbook.has sheet = true)
include present

theorem exists_index : ∃ grid, workbook.get? settings.indexSheet = some grid :=
  Keyed.exists_get?_of_has (present _ (mem_requiredSheets.2 (.inl rfl)))

theorem exists_listSheet {list : ListSettings} (member : list ∈ settings.catalogLists) :
    ∃ grid, workbook.get? list.sheet = some grid :=
  Keyed.exists_get?_of_has (present _ (mem_requiredSheets.2 (.inr (.inl ⟨list, member, rfl⟩))))

theorem exists_categorySheet : ∃ grid, workbook.get? settings.taxonomy.categorySheet = some grid :=
  Keyed.exists_get?_of_has (present _ (mem_requiredSheets.2 (.inr (.inr (.inl rfl)))))

theorem exists_containerSheet : ∃ grid, workbook.get? settings.taxonomy.containerSheet = some grid :=
  Keyed.exists_get?_of_has (present _ (mem_requiredSheets.2 (.inr (.inr (.inr rfl)))))

end Present

/-! ## The country -/

/-- The text of the cell that names the country. -/
def CountryText (settings : Settings) (workbook : Workbook) (country : Option String) : Prop :=
  ∃ grid, workbook.get? settings.indexSheet = some grid ∧
    Table.textAt (Table.rowsOf grid) settings.countryCell = .ok country

section Country

theorem issues_readMarket (settings : Settings) (workbook : Workbook) :
    (readMarket settings workbook).journal.issues = [] := by
  refine Report.issues_bind_eq_nil rfl fun rows => ?_
  refine Report.issues_bind_eq_nil rfl fun country => ?_
  exact Report.issues_bind_eq_nil rfl fun market => rfl

variable {grid : Grid} (index : workbook.get? settings.indexSheet = some grid)
include index

theorem load_index {rows : List Row}
    (ok : Table.load workbook settings.indexSheet (.whole 0) = .ok rows) : rows = Table.rowsOf grid := by
  have narrow : grid.width ≤ Column.greatest := by
    by_contra wide
    obtain ⟨_, failed⟩ := (Table.load_fails_iff index).2 (.inl (Nat.lt_of_not_le wide))
    cases failed.symm.trans ok
  cases (Table.load_all index narrow).symm.trans ok
  rfl

theorem outcome_readMarket_ok {shown market : String}
    (ok : (readMarket settings workbook).outcome = .ok (shown, market)) :
    CountryText settings workbook (some shown) ∧ Market.codeOf settings.countries (some shown) = .ok market ∧
      Market.Knows settings.countries (trim shown) := by
  obtain ⟨rows, loaded, ok⟩ := Report.exists_of_bind_ok ok
  obtain ⟨country, text, ok⟩ := Report.exists_of_bind_ok ok
  obtain ⟨code, known, ok⟩ := Report.exists_of_bind_ok ok
  obtain ⟨_, _, ok⟩ := Report.exists_of_bind_ok ok
  cases ok
  obtain rfl := load_index index loaded
  obtain ⟨name, rfl, knows⟩ := Market.knows_of_codeOf known
  exact ⟨⟨grid, index, text⟩, known, knows⟩

/-- The failure that is told is that of a country that the table does not know. -/
theorem unknown_of_readMarket {failure : Failure}
    (failed : (readMarket settings workbook).outcome = .error failure)
    (told : failure.issueKind?.isSome = true) :
    ∃ country, CountryText settings workbook country ∧ failure = .unrecognizedCountry country ∧
      ∀ text ∈ country, ¬Market.Knows settings.countries (trim text) := by
  rcases Report.bind_eq_error_iff.1 failed with failed | ⟨rows, loaded, failed⟩
  · rw [Table.issueKind?_of_load index failed] at told
    cases told
  obtain rfl := load_index index loaded
  rcases Report.bind_eq_error_iff.1 failed with failed | ⟨country, text, failed⟩
  · rw [Table.issueKind?_of_textAt failed] at told
    cases told
  rcases Report.bind_eq_error_iff.1 failed with failed | ⟨code, known, failed⟩
  · obtain ⟨same, unknown⟩ := Market.unknown_of_codeOf failed told
    exact ⟨country, ⟨grid, index, text⟩, same, unknown⟩
  · cases failed

end Country

/-! ## The issue log -/

/-- The log gains the warnings of a run that returns. -/
theorem issuesOf_of_ok {report : Report Compilation} {made : Compilation} (ok : report.outcome = .ok made)
    (file : String) : issuesOf file report = report.journal.issues := by
  rw [issuesOf, ok]

/-- The log gains the warnings of a run that fails and the reason, if that is told. -/
theorem issuesOf_of_told {report : Report Compilation} {failure : Failure}
    (failed : report.outcome = .error failure) {kind : String} (told : failure.issueKind? = some kind)
    (file : String) : issuesOf file report = report.journal.issues
      ++ [⟨file, subject failure, failureLine failure, kind, failure.message⟩] := by
  rw [issuesOf, failed]
  simp only [told]

end Compilation

end Codebook
