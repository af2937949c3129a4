import Codebook.Proofs.Run.Lists

/-!
# How a run ends

A run ends at the first of six places (`Ends`): the file is no workbook; a sheet that is read is not there; the
country has no market code; a list has no entry; a definition text has a fragment that cannot be read, where
texts are read strictly; or it returns. Whatever else is wrong with the workbook, the first of these is what is
told, and the issue log gains the warnings up to there and then the reason (`run_ends`).
-/

namespace Codebook

/-- Issues that are added one after the other are added together. -/
theorem IssueLog.extend_extend (log : IssueLog) (first second : List Issue) :
    (log.extend first).extend second = log.extend (first ++ second) := by
  simp only [extend, List.append_assoc]

namespace Compilation

open Definition ImportRow Text

variable {settings : Settings} {platform : Platform} {tree : FileTree} {path : Path}

/-! ## Endings -/

/-- Whether a run can read its workbook and find all sheets and the country in it. -/
def OpensAt (settings : Settings) (tree : FileTree) (path : Path) (workbook : Workbook)
    (country market : String) : Prop :=
  readWorkbook tree path settings.requiredSheets.contains = .ok workbook ∧
    Opens settings workbook country market

/-- The warnings of a draft: those about the lists in their order, and then those about the taxonomy. -/
def draftWarnings (settings : Settings) (workbook : Workbook) (file market : String) : List Issue :=
  warningsOf settings workbook file market settings.catalogLists
    ++ (buildTaxonomy settings workbook file market).journal.issues

/-- The warnings about blocks that are read for a platform: one for each fragment. -/
def blockWarnings (settings : Settings) (platform : Platform) (file : String) (blocks : List Block) :
    List Issue :=
  match platform with
  | .dimensions => []
  | .ifield => blocks.flatMap fun block =>
      (fragmentsOf (readingOf settings) (tokenize block.text)).map (Fragment.issue file block.name)

/-- The endings of a run with the warnings up to there. What a workbook has to be for a later ending is what
keeps a run from each earlier one. -/
inductive Ends (settings : Settings) (platform : Platform) (tree : FileTree) (path : Path) :
    Except Failure Compilation → List Issue → Prop
  | unreadable (reason : String) :
    readWorkbook tree path settings.requiredSheets.contains = .error (.unreadable reason) →
    Ends settings platform tree path (.error (.unreadableWorkbook path.text reason)) []
  | missingSheet {workbook : Workbook} {before after : List String} (sheet : String) :
    readWorkbook tree path settings.requiredSheets.contains = .ok workbook →
    settings.requiredSheets = before ++ sheet :: after →
    (∀ earlier ∈ before, workbook.has earlier = true) → workbook.has sheet = false →
    Ends settings platform tree path (.error (.missingSheet sheet)) []
  | unknownCountry {workbook : Workbook} (country : Option String) :
    readWorkbook tree path settings.requiredSheets.contains = .ok workbook →
    (∀ sheet ∈ settings.requiredSheets, workbook.has sheet = true) →
    CountryText settings workbook country →
    (∀ text ∈ country, ¬Market.Knows settings.countries (trim text)) →
    Ends settings platform tree path (.error (.unrecognizedCountry country)) []
  | emptyList {workbook : Workbook} {country market : String} {before after : List ListSettings}
      (list : ListSettings) :
    OpensAt settings tree path workbook country market →
    settings.catalogLists = before ++ list :: after →
    (∀ earlier ∈ before, HasEntry settings workbook earlier) → ¬HasEntry settings workbook list →
    Ends settings platform tree path (.error (.emptyList (listName list.name market)))
      (warningsOf settings workbook path.name market before)
  | malformed {workbook : Workbook} {country market : String} {d : Draft} {before after : List Block}
      {block : Block} {rest : List Fragment} (first : Fragment) :
    OpensAt settings tree path workbook country market →
    (∀ list ∈ settings.catalogLists, HasEntry settings workbook list) →
    (draft settings path.name workbook).outcome = .ok d →
    platform = .ifield → settings.exporting.strictParsing = true → d.blocks = before ++ block :: after →
    (∀ earlier ∈ before, fragmentsOf (readingOf settings) (tokenize earlier.text) = []) →
    fragmentsOf (readingOf settings) (tokenize block.text) = first :: rest →
    Ends settings platform tree path (.error (.malformedFragment first.line first.text))
      (draftWarnings settings workbook path.name market)
  | returns {workbook : Workbook} {country market : String} {d : Draft} (made : Compilation) :
    OpensAt settings tree path workbook country market →
    (∀ list ∈ settings.catalogLists, HasEntry settings workbook list) →
    (draft settings path.name workbook).outcome = .ok d →
    (platform = .ifield → settings.exporting.strictParsing = true →
      ∀ block ∈ d.blocks, fragmentsOf (readingOf settings) (tokenize block.text) = []) →
    Ends settings platform tree path (.ok made)
      (draftWarnings settings workbook path.name market
        ++ blockWarnings settings platform path.name d.blocks)

/-- Whether a run fails only for reasons that are told. -/
def TellsFailure (report : Report Compilation) : Prop :=
  ∀ failure, report.outcome = .error failure → failure.issueKind?.isSome = true

/-! ## Tables -/

section Finish

variable {file : String} {d : Draft}

/-- The failure that is told is the first fragment of the first block that has one, where reading is strict;
so nothing is noted before it. -/
theorem malformed_of_finish {failure : Failure}
    (failed : (finish settings platform file d).outcome = .error failure)
    (told : failure.issueKind?.isSome = true) :
    platform = .ifield ∧ settings.exporting.strictParsing = true ∧
      (∃ before block after first rest, d.blocks = before ++ block :: after ∧
        (∀ earlier ∈ before, fragmentsOf (readingOf settings) (tokenize earlier.text) = []) ∧
        fragmentsOf (readingOf settings) (tokenize block.text) = first :: rest ∧
        failure = .malformedFragment first.line first.text) ∧
      (finish settings platform file d).journal.issues = [] := by
  cases platform with
  | dimensions =>
    rw [finish_dimensions] at failed
    cases failed
  | ifield =>
    obtain ⟨before, block, after, split, read, unread⟩ :=
      parseBlocks_eq_error_iff.1 (finish_ifield_eq_error_iff.1 failed)
    obtain ⟨strict, first, rest, fragment, same⟩ := stops_of_parse unread told
    have earlier : ∀ b ∈ before, fragmentsOf (readingOf settings) (tokenize b.text) = [] :=
      fun b member => fragmentsOf_eq_nil ((exists_parse_iff _ _).1 (read b member)).1 strict
    refine ⟨rfl, strict, ⟨before, block, after, first, rest, split, earlier, fragment, same⟩, ?_⟩
    rw [issues_finish_ifield, split, issues_parseBlocks_of_error read unread, List.flatMap_eq_nil_iff]
    exact fun b member => by rw [earlier b member, List.map_nil]

theorem fragments_of_finish {made : Compilation}
    (ok : (finish settings platform file d).outcome = .ok made) :
    (platform = .ifield → settings.exporting.strictParsing = true →
      ∀ block ∈ d.blocks, fragmentsOf (readingOf settings) (tokenize block.text) = []) ∧
      (finish settings platform file d).journal.issues =
        blockWarnings settings platform file d.blocks := by
  cases platform with
  | dimensions => exact ⟨nofun, rfl⟩
  | ifield =>
    cases read : (parseBlocks (readingOf settings) file d.blocks).outcome with
    | error failure =>
      cases (finish_ifield_eq_error_iff.2 read).symm.trans ok
    | ok parsed =>
      obtain ⟨all, issues⟩ := read_of_parseBlocks read
      refine ⟨fun _ strict block member => ?_, (issues_finish_ifield d).trans issues⟩
      exact fragmentsOf_eq_nil ((exists_parse_iff _ _).1 (all block member)).1 strict

end Finish

/-! ## Runs -/

section Runs

/-- Before there is a draft, a run ends at the file, a sheet, the country or a list. -/
theorem ends_of_draftAt {failure : Failure}
    (failed : (draftAt settings tree path).outcome = .error failure)
    (told : failure.issueKind?.isSome = true) (platform : Platform) :
    Ends settings platform tree path (.error failure) (draftAt settings tree path).journal.issues := by
  cases read : readWorkbook tree path settings.requiredSheets.contains with
  | error fault =>
    rw [draftAt, read] at failed ⊢
    cases fault with
    | unreadable reason =>
      cases failed
      exact .unreadable reason read
    | broken cause =>
      cases failed
      cases told
  | ok workbook =>
    rw [draftAt_of_read read] at failed ⊢
    rcases checkSheets_cases workbook settings.requiredSheets with
      ⟨sheets, checked⟩ | ⟨before, sheet, after, split, earlier, missing, checked⟩
    · cases market : (readMarket settings workbook).outcome with
      | error other =>
        rw [draft, checked, pure_bind, Report.bind_of_error market] at failed ⊢
        cases failed
        obtain ⟨grid, index⟩ := exists_index sheets
        obtain ⟨country, text, rfl, unknown⟩ := unknown_of_readMarket index market told
        rw [issues_readMarket]
        exact .unknownCountry country read sheets text unknown
      | ok named =>
        have opens := opens_of_readMarket sheets market
        obtain ⟨before, list, after, split, earlier, none, rfl, issues⟩ := empty_of_draft opens failed told
        rw [issues]
        exact .emptyList list ⟨read, opens⟩ split earlier none
    · rw [draft, checked] at failed ⊢
      cases failed
      exact .missingSheet sheet read split earlier missing

theorem opensAt_of_draftAt {d : Draft} (ok : (draftAt settings tree path).outcome = .ok d) :
    ∃ workbook country market, OpensAt settings tree path workbook country market ∧
      (draft settings path.name workbook).outcome = .ok d ∧
      (draftAt settings tree path).journal.issues = (draft settings path.name workbook).journal.issues := by
  obtain ⟨workbook, read, drafted⟩ := exists_workbook_of_draftAt ok
  rw [draftAt_of_read read]
  have made := drafted
  rcases checkSheets_cases workbook settings.requiredSheets with
    ⟨sheets, checked⟩ | ⟨_, _, _, _, _, _, checked⟩
  · rw [draft, checked, pure_bind] at made
    obtain ⟨⟨country, market⟩, named, _⟩ := Report.exists_of_bind_ok made
    exact ⟨workbook, country, market, ⟨read, opens_of_readMarket sheets named⟩, drafted, rfl⟩
  · rw [draft, checked] at made
    cases made

theorem ends_of_told (told : TellsFailure (run settings platform tree path)) :
    Ends settings platform tree path (run settings platform tree path).outcome
      (run settings platform tree path).journal.issues := by
  rw [TellsFailure, run_eq] at told
  rw [run_eq]
  cases drafted : (draftAt settings tree path).outcome with
  | error failure =>
    rw [Report.bind_of_error drafted] at told ⊢
    exact ends_of_draftAt drafted (told failure rfl) platform
  | ok d =>
    rw [Report.bind_of_ok drafted] at told ⊢
    obtain ⟨workbook, country, market, opensAt, ok, draftIssues⟩ := opensAt_of_draftAt drafted
    obtain ⟨entries, warned⟩ := entries_of_draft opensAt.2 ok
    have issues : (draftAt settings tree path).journal.issues =
        draftWarnings settings workbook path.name market := draftIssues.trans warned
    rw [Report.issues_append, issues]
    cases made : (finish settings platform path.name d).outcome with
    | error failure =>
      obtain ⟨tables, strict, ⟨before, block, after, first, rest, split, earlier, fragment, rfl⟩, quiet⟩ :=
        malformed_of_finish made (told failure made)
      rw [quiet, List.append_nil]
      exact .malformed first opensAt entries ok tables strict split earlier fragment
    | ok compilation =>
      obtain ⟨fragments, noted⟩ := fragments_of_finish made
      rw [noted]
      exact .returns compilation opensAt entries ok fragments

/-- A run that fails only for reasons that are told ends at the first place where it can. The issue log gains
the warnings up to there, and the reason after them if the run fails. -/
theorem run_ends (platform : Platform) (log : IssueLog)
    (told : TellsFailure (run settings platform tree path)) :
    Ends settings platform tree path (run settings platform tree path).outcome
        (run settings platform tree path).journal.issues ∧
      (∀ made, (run settings platform tree path).outcome = .ok made →
        log.extend (issuesOf path.name (run settings platform tree path)) =
          log.extend (run settings platform tree path).journal.issues) ∧
      ∀ failure, (run settings platform tree path).outcome = .error failure →
        ∃ kind, failure.issueKind? = some kind ∧
          log.extend (issuesOf path.name (run settings platform tree path)) =
            (log.extend (run settings platform tree path).journal.issues).append
              ⟨path.name, subject failure, failureLine failure, kind, failure.message⟩ := by
  refine ⟨ends_of_told told, fun made ok => ?_, fun failure failed => ?_⟩
  · rw [issuesOf_of_ok ok]
  · obtain ⟨kind, named⟩ := Option.isSome_iff_exists.1 (told failure failed)
    refine ⟨kind, named, ?_⟩
    rw [issuesOf_of_told failed named, IssueLog.append, IssueLog.extend_extend]

end Runs

/-- Settings with two catalogs. -/
def two : Settings :=
  { small with catalogLists :=
      [⟨"C", "C", .whole 1, .whole 1, false⟩, ⟨"E", "E", .whole 1, .whole 1, false⟩] }

/-- A tree with a workbook whose first catalog has an entry twice and whose second one has none. -/
def twoTree : FileTree where
  files :=
    [(["m"], .single (.sheets
      [
        ("I", [[.text "S"]]),
        ("C", [[.text "1"], [.text "yes"], [.text "yes"]]),
        ("E", [[.text "1"], [.text "no"]]),
        ("T", [[.text "L"]]),
        ("K", [[.text "K"]])
      ]))]
  directories := []

/-- The run ends at the second catalog; the log gains the warning about the first one, and then the reason. -/
theorem run_ends_two :
    TellsFailure (run two .dimensions twoTree ⟨"", ["m"]⟩) ∧
      Ends two .dimensions twoTree ⟨"", ["m"]⟩ (.error (.emptyList "E_S"))
        [⟨"m", "C_S", -1, "DUPLICATE_CODE", "duplicate code _yes for 'yes'"⟩] ∧
      (IssueLog.new ⟨"", []⟩).extend (issuesOf "m" (run two .dimensions twoTree ⟨"", ["m"]⟩)) =
        ((IssueLog.new ⟨"", []⟩).extend
            [⟨"m", "C_S", -1, "DUPLICATE_CODE", "duplicate code _yes for 'yes'"⟩]).append
          ⟨"m", "E_S", -1, "EMPTY_LIST", "list 'E_S' produced no entries"⟩ := by
  have failed : (run two .dimensions twoTree ⟨"", ["m"]⟩).outcome = .error (.emptyList "E_S") := by
    decide +kernel
  have warned : (run two .dimensions twoTree ⟨"", ["m"]⟩).journal.issues =
      [⟨"m", "C_S", -1, "DUPLICATE_CODE", "duplicate code _yes for 'yes'"⟩] := by
    decide +kernel
  have told : TellsFailure (run two .dimensions twoTree ⟨"", ["m"]⟩) := by
    intro failure other
    cases failed.symm.trans other
    rfl
  obtain ⟨ends, _, fails⟩ := run_ends .dimensions (IssueLog.new ⟨"", []⟩) told
  obtain ⟨kind, same, gained⟩ := fails _ failed
  cases same
  rw [failed, warned] at ends
  rw [warned] at gained
  exact ⟨told, ends, gained⟩

end Compilation

end Codebook
