import Codebook.Proofs.Catalog.Building
import Codebook.Proofs.Repetition
import Mathlib

/-!
# Which rows become entries

A row of a table offers an entry if it has a label, a code and a category. Of the offers with one code the first
becomes an entry and each other one an issue, in the order of the rows (`outcome_build`, `issues_build`). A row
that offers nothing might as well not be there (`build_eq_of_no_offer`).
-/

namespace Codebook

namespace Column

theorem nameOf_whole {n : Nat} (positive : 0 < n) (named : n ≤ greatest) : nameOf (.whole n) = .ok (name n) := by
  have inside : inRange (.whole n) = true := inRange_whole.2 (by omega)
  rw [nameOf, inside]
  rfl

end Column

namespace Row

theorem filled?_eq_some_iff {row : Row} {column text : String} :
    row.filled? column = some text ↔ row.text? column = some text ∧ text ≠ "" := by
  rw [filled?, Option.filter_eq_some_iff, Bool.not_eq_true', String.isEmpty_eq_false_iff]

end Row

namespace Catalog

/-! ## Offers -/

instance (row : Row) : Decidable (IsNumbered row) :=
  have (name : String) : Decidable (∃ n, Column.index name = .ok n) :=
    match Column.index name with
    | .ok n => isTrue ⟨n, rfl⟩
    | .error _ => isFalse nofun
  inferInstanceAs (Decidable (∀ cell ∈ row, ∃ n, Column.index cell.1 = .ok n))

/-- What a row offers for an entry; its code is that of the row without the blanks at both ends. -/
structure Offer where
  label : String
  code : String
  categories : List String
deriving Repr, DecidableEq

namespace Offer

/-- The entry that an offer becomes. The labels of imagery lists are set in bold. -/
def entry (isImage : Bool) (o : Offer) : Entry :=
  ⟨o.code, if isImage then "<b>" ++ o.label ++ "</b>" else o.label, o.categories, isImage⟩

/-- The issue that an offer becomes if an earlier one has its code. -/
def repetition (place : Place) (o : Offer) : Issue :=
  ⟨place.workbook, place.list, -1, "DUPLICATE_CODE", "duplicate code _" ++ o.code ++ " for '" ++ o.label ++ "'"⟩

end Offer

/-- What a row has that makes an offer, and what the offer has from it. -/
structure IsOfferOf (labels : Row) (codeColumn : String) (start : Number) (row : Row) (o : Offer) : Prop where
  label : row.text? "A" = some o.label
  labelled : o.label ≠ ""
  code : ∃ text, row.text? codeColumn = some text ∧ text ≠ "" ∧ Text.trim text = o.code
  categories : Flags.resolveCodes labels row start = .ok o.categories
  flagged : o.categories ≠ []

/-- The offer of a row, if it makes one. -/
def offer? (labels : Row) (codeColumn : String) (start : Number) (row : Row) : Option Offer := do
  let label ← row.filled? labelColumn
  let code ← row.filled? codeColumn
  let categories ← (Flags.resolveCodes labels row start).toOption
  if categories.isEmpty then none else some ⟨label, Text.trim code, categories⟩

/-- The offers of a table, whose first row holds the labels. -/
def offers (codeColumn : String) (start : Number) : List Row → List Offer
  | [] => []
  | labels :: rows => rows.filterMap (offer? labels codeColumn start)

section Rows

variable {labels row : Row} {codeColumn : String} {start : Number}

theorem offer?_eq_some_iff {o : Offer} :
    offer? labels codeColumn start row = some o ↔ IsOfferOf labels codeColumn start row o := by
  rcases o with ⟨label, code, categories⟩
  constructor
  · intro made
    obtain ⟨text, labelled, made⟩ := Option.bind_eq_some_iff.1 made
    obtain ⟨written, coded, made⟩ := Option.bind_eq_some_iff.1 made
    obtain ⟨resolved, flags, made⟩ := Option.bind_eq_some_iff.1 made
    split at made
    · cases made
    · next flagged =>
      cases made
      obtain ⟨there, filled⟩ := Row.filled?_eq_some_iff.1 labelled
      obtain ⟨here, nonempty⟩ := Row.filled?_eq_some_iff.1 coded
      exact ⟨there, filled, ⟨written, here, nonempty, rfl⟩, Report.eq_ok_of_toOption flags,
        fun none => flagged (List.isEmpty_iff.2 none)⟩
  · rintro ⟨there, filled, ⟨written, here, nonempty, rfl⟩, resolved, flagged⟩
    have labelled : row.filled? labelColumn = some label := Row.filled?_eq_some_iff.2 ⟨there, filled⟩
    have coded : row.filled? codeColumn = some written := Row.filled?_eq_some_iff.2 ⟨here, nonempty⟩
    simp only [offer?, labelled, coded, resolved, Option.bind_eq_bind, Option.bind_some, Except.toOption]
    exact if_neg fun none => flagged (List.isEmpty_iff.1 none)

/-- A row without a category makes no offer. -/
theorem offer?_eq_none (unflagged : Flags.resolveCodes labels row start = .ok []) (codeColumn : String) :
    offer? labels codeColumn start row = none := by
  refine Option.eq_none_iff_forall_ne_some.2 fun o made => ?_
  have offered := offer?_eq_some_iff.1 made
  exact offered.flagged (Except.ok.inj (offered.categories.symm.trans unflagged))

/-- An offer has a category. -/
theorem categories_ne_nil_of_mem_offers {table : List Row} {o : Offer}
    (member : o ∈ offers codeColumn start table) : o.categories ≠ [] := by
  cases table with
  | nil => cases member
  | cons labels rows =>
    obtain ⟨row, -, made⟩ := List.mem_filterMap.1 member
    exact (offer?_eq_some_iff.1 made).flagged

/-- A row gives the entry that its offer becomes. -/
theorem entryOf_eq (numberedLabels : IsNumbered labels) (numbered : IsNumbered row) (codeColumn : String)
    (shape : Shape) :
    entryOf labels codeColumn shape row =
      .ok ((offer? labels codeColumn shape.categoryStart row).map (Offer.entry shape.isImage)) := by
  obtain ⟨codes, resolved⟩ := resolveCodes_ok numberedLabels numbered shape.categoryStart
  unfold entryOf offer?
  cases row.filled? labelColumn with
  | none => rfl
  | some label =>
    cases row.filled? codeColumn with
    | none => rfl
    | some code =>
      rw [resolved]
      cases codes <;> rfl

end Rows

/-! ## Walking through the rows -/

section Walk

variable {place : Place} {labels row : Row} {codeColumn : String} {shape : Shape} {seen : List String}
  {rows : List Row}

/-- A row that gives no entry might as well not be there. -/
theorem entriesFrom_append_cons (idle : entryOf labels codeColumn shape row = .ok none)
    (before after : List Row) (seen : List String) :
    entriesFrom place labels codeColumn shape seen (before ++ row :: after) =
      entriesFrom place labels codeColumn shape seen (before ++ after) := by
  induction before generalizing seen with
  | nil =>
    rw [List.nil_append, List.nil_append, entriesFrom, idle]
    rfl
  | cons first rest ih =>
    rw [List.cons_append, List.cons_append, entriesFrom, entriesFrom]
    simp only [ih]

theorem entriesFrom_cons_known {e : Entry} (made : entryOf labels codeColumn shape row = .ok (some e))
    (known : e.code ∈ seen) (rest : List Row) :
    entriesFrom place labels codeColumn shape seen (row :: rest) =
      reportRepeated place e.code ((row.text? labelColumn).getD "") >>= fun _ =>
        entriesFrom place labels codeColumn shape seen rest := by
  rw [entriesFrom, made]
  show (if seen.contains e.code = true then _ else _) = _
  rw [if_pos (List.contains_iff_mem.2 known)]

theorem entriesFrom_cons_fresh {e : Entry} (made : entryOf labels codeColumn shape row = .ok (some e))
    (fresh : e.code ∉ seen) (rest : List Row) :
    entriesFrom place labels codeColumn shape seen (row :: rest) = do
      let entries ← entriesFrom place labels codeColumn shape (e.code :: seen) rest
      return e :: entries := by
  rw [entriesFrom, made]
  show (if seen.contains e.code = true then _ else _) = _
  rw [if_neg fun known => fresh (List.contains_iff_mem.1 known)]

/-- The codes that the walk has seen are those of the offers before. Then the rows that are left give an entry for
each offer that leads with its code, and an issue for each other one. -/
theorem entriesFrom_eq (numberedLabels : IsNumbered labels) (numbered : ∀ row ∈ rows, IsNumbered row)
    {before : List Offer} (met : ∀ code, code ∈ seen ↔ code ∈ before.map Offer.code) :
    (entriesFrom place labels codeColumn shape seen rows).outcome =
        .ok ((leading Offer.code before
          (rows.filterMap (offer? labels codeColumn shape.categoryStart))).map (Offer.entry shape.isImage)) ∧
      (entriesFrom place labels codeColumn shape seen rows).journal.issues =
        (repeating Offer.code before
          (rows.filterMap (offer? labels codeColumn shape.categoryStart))).map (Offer.repetition place) := by
  induction rows generalizing seen before with
  | nil => exact ⟨rfl, rfl⟩
  | cons row rest ih =>
    obtain ⟨first, others⟩ := List.forall_mem_cons.1 numbered
    have given := entryOf_eq numberedLabels first codeColumn shape
    cases made : offer? labels codeColumn shape.categoryStart row with
    | none =>
      rw [made] at given
      rw [← List.nil_append (row :: rest), entriesFrom_append_cons given, List.nil_append,
        List.nil_append, List.filterMap_cons_none made]
      exact ih others met
    | some o =>
      rw [made] at given
      rw [List.filterMap_cons_some made, leading_cons, repeating_cons]
      by_cases known : o.code ∈ before.map Offer.code
      · have label : (row.text? labelColumn).getD "" = o.label := by
          rw [labelColumn, (offer?_eq_some_iff.1 made).label, Option.getD_some]
        obtain ⟨entries, issues⟩ := ih others (met_known met ((met _).2 known))
        rw [if_pos known, if_pos known, entriesFrom_cons_known given ((met _).2 known), label]
        exact ⟨entries, congrArg (o.repetition place :: ·) issues⟩
      · obtain ⟨entries, issues⟩ := ih others (met_cons met o)
        rw [if_neg known, if_neg known, entriesFrom_cons_fresh given fun there => known ((met _).1 there)]
        refine ⟨(Report.outcome_bind ..).trans ?_, (Report.issues_bind_pure ..).trans issues⟩
        exact (congrArg (· >>= _) entries).trans rfl

end Walk

/-! ## Catalogs -/

section Build

variable {codeColumn : Nat} (positive : 0 < codeColumn) (named : codeColumn ≤ Column.greatest)
include positive named

section Numbered

variable {table : List Row} (numbered : ∀ row ∈ table, IsNumbered row)
include numbered

theorem outcome_build (place : Place) (start : Number) (isImage : Bool) :
    (build place ⟨.whole codeColumn, start, isImage⟩ table).outcome =
      if (offers (Column.name codeColumn) start table).isEmpty then .error (.emptyList place.list)
      else .ok ⟨place.list,
        (leading Offer.code [] (offers (Column.name codeColumn) start table)).map (Offer.entry isImage)⟩ := by
  cases table with
  | nil => rfl
  | cons labels rows =>
    obtain ⟨numberedLabels, others⟩ := List.forall_mem_cons.1 numbered
    obtain ⟨entries, -⟩ := @entriesFrom_eq place labels (Column.name codeColumn)
      ⟨.whole codeColumn, start, isImage⟩ [] rows numberedLabels others [] fun _ => Iff.rfl
    rw [build_of_named (Column.nameOf_whole positive named), Report.outcome_bind, entries, offers]
    by_cases none : rows.filterMap (offer? labels (Column.name codeColumn) start) = []
    · rw [none]
      rfl
    · have made : (leading Offer.code [] (rows.filterMap (offer? labels (Column.name codeColumn) start))).map
          (Offer.entry isImage) ≠ [] := by
        rwa [Ne, List.map_eq_nil_iff, leading_eq_nil_iff]
      rw [if_neg fun empty => none (List.isEmpty_iff.1 empty)]
      show Report.outcome (if List.isEmpty _ = true then _ else _) = _
      rw [if_neg fun empty => made (List.isEmpty_iff.1 empty)]
      rfl

theorem issues_build (place : Place) (start : Number) (isImage : Bool) :
    (build place ⟨.whole codeColumn, start, isImage⟩ table).journal.issues =
      (repeating Offer.code [] (offers (Column.name codeColumn) start table)).map
        (Offer.repetition place) := by
  cases table with
  | nil => rfl
  | cons labels rows =>
    obtain ⟨numberedLabels, others⟩ := List.forall_mem_cons.1 numbered
    obtain ⟨-, issues⟩ := @entriesFrom_eq place labels (Column.name codeColumn)
      ⟨.whole codeColumn, start, isImage⟩ [] rows numberedLabels others [] fun _ => Iff.rfl
    rw [build_of_named (Column.nameOf_whole positive named)]
    refine (Report.issues_bind_eq (fun entries => ?_) _).trans issues
    split <;> rfl

theorem build_eq_ok_iff {place : Place} {start : Number} {isImage : Bool} {c : Catalog} :
    (build place ⟨.whole codeColumn, start, isImage⟩ table).outcome = .ok c ↔
      offers (Column.name codeColumn) start table ≠ [] ∧
        c = ⟨place.list,
          (leading Offer.code [] (offers (Column.name codeColumn) start table)).map (Offer.entry isImage)⟩ := by
  rw [outcome_build positive named numbered]
  by_cases none : offers (Column.name codeColumn) start table = []
  · simp [none]
  · rw [if_neg fun empty => none (List.isEmpty_iff.1 empty), Except.ok.injEq, eq_comm]
    exact (and_iff_right none).symm

end Numbered

/-- A row that offers nothing might as well not be there. -/
theorem build_eq_of_no_offer {labels row : Row} (numberedLabels : IsNumbered labels)
    (numbered : IsNumbered row) {start : Number}
    (idle : offer? labels (Column.name codeColumn) start row = none) (place : Place) (isImage : Bool)
    (before after : List Row) :
    build place ⟨.whole codeColumn, start, isImage⟩ (labels :: (before ++ row :: after)) =
      build place ⟨.whole codeColumn, start, isImage⟩ (labels :: (before ++ after)) := by
  have given := entryOf_eq numberedLabels numbered (Column.name codeColumn) ⟨.whole codeColumn, start, isImage⟩
  rw [idle] at given
  have name := Column.nameOf_whole positive named
  rw [build_of_named name, build_of_named name, entriesFrom_append_cons given]

/-- The entries of a catalog are the offers that lead with their codes, in the order of the rows, and each offer
with the code of an earlier one is an issue instead. Without offers the list is empty, and nothing is noted. A
row that is not flagged keeps its code free and leaves no trace. -/
theorem build_leads {table : List Row} (numbered : ∀ row ∈ table, IsNumbered row) (place : Place)
    (start : Number) (isImage : Bool) :
    let found := offers (Column.name codeColumn) start table
    let built := build place ⟨.whole codeColumn, start, isImage⟩ table
    (∀ labels row o, offer? labels (Column.name codeColumn) start row = some o ↔
        IsOfferOf labels (Column.name codeColumn) start row o) ∧
      (built.outcome = .error (.emptyList place.list) ↔ found = []) ∧
      (found = [] → built.journal.issues = []) ∧
      (found ≠ [] → built.outcome = .ok ⟨place.list, (leading Offer.code [] found).map (Offer.entry isImage)⟩ ∧
        built.journal.issues = (repeating Offer.code [] found).map (Offer.repetition place)) ∧
      (∀ c, built.outcome = .ok c → (c.entries.map Entry.code).Nodup ∧ ∀ e ∈ c.entries, e.categories ≠ []) ∧
      ∀ labels before row after, table = labels :: (before ++ row :: after) →
        Flags.resolveCodes labels row start = .ok [] →
        build place ⟨.whole codeColumn, start, isImage⟩ (labels :: (before ++ after)) = built := by
  intro found built
  have made {c : Catalog} := @build_eq_ok_iff codeColumn positive named table numbered place start isImage c
  have issues := issues_build positive named numbered place start isImage
  refine ⟨fun _ _ _ => offer?_eq_some_iff, ?_, fun none => ?_, fun some => ⟨made.2 ⟨some, rfl⟩, issues⟩,
    fun c ok => ?_, ?_⟩
  · show (build place _ table).outcome = _ ↔ offers _ start table = []
    rw [outcome_build positive named numbered, ← List.isEmpty_iff]
    split <;> simp_all
  · exact issues.trans (by rw [show offers _ start table = [] from none]; rfl)
  · obtain ⟨-, rfl⟩ := made.1 ok
    refine ⟨?_, List.forall_mem_map.2 fun o member => ?_⟩
    · rw [List.map_map]
      exact nodup_map_leading [] _
    · exact categories_ne_nil_of_mem_offers ((leading_sublist ..).subset member)
  · rintro labels before row after rfl unflagged
    obtain ⟨numberedLabels, others⟩ := List.forall_mem_cons.1 numbered
    have numberedRow := others row (List.mem_append_right before List.mem_cons_self)
    exact (build_eq_of_no_offer positive named numberedLabels numberedRow
      (offer?_eq_none unflagged _) place isImage before after).symm

end Build

/-- A table of brands where a code is free until a row with a category has it. -/
def brands : List Row :=
  let row (label code cider beer : String) : Row :=
    [("A", some label), ("B", some code), ("C", some cider), ("D", some beer)]
  [row "Brand" "Code" "Cider 1101" "Beer 720",
    row "Perry" "11" "no" "",
    row "Somersby" "11" "no" "YES",
    row "Bulmers" " 11 " "yes" "yes",
    row "Kopparberg" "12" "yes" "yes",
    row "Rekorderlig" "12" "" "yes",
    [("A", some ""), ("B", some "13"), ("C", some "yes")]]

theorem build_leads_brands :
    (0 < 2 ∧ 2 ≤ Column.greatest ∧ ∀ row ∈ brands, IsNumbered row) ∧
      (build ⟨"market.xlsx", "MAIN"⟩ ⟨.whole 2, .whole 3, true⟩ brands).outcome =
        .ok ⟨"MAIN", [⟨"11", "<b>Somersby</b>", ["720"], true⟩,
          ⟨"12", "<b>Kopparberg</b>", ["1101", "720"], true⟩]⟩ ∧
      (build ⟨"market.xlsx", "MAIN"⟩ ⟨.whole 2, .whole 3, true⟩ brands).journal.issues.map Issue.message =
        ["duplicate code _11 for 'Bulmers'", "duplicate code _12 for 'Rekorderlig'"] := by
  have numbered : ∀ row ∈ brands, IsNumbered row := by decide +kernel
  have found : offers (Column.name 2) (.whole 3) brands =
      [⟨"Somersby", "11", ["720"]⟩, ⟨"Bulmers", "11", ["1101", "720"]⟩,
        ⟨"Kopparberg", "12", ["1101", "720"]⟩, ⟨"Rekorderlig", "12", ["720"]⟩] := by
    cbv
  obtain ⟨-, -, -, made, -⟩ :=
    @build_leads 2 (by decide) (by decide) brands numbered ⟨"market.xlsx", "MAIN"⟩ (.whole 3) true
  rw [found] at made
  obtain ⟨outcome, issues⟩ := made (List.cons_ne_nil _ _)
  refine ⟨⟨by decide, by decide, numbered⟩, outcome.trans ?_, (congrArg _ issues).trans ?_⟩ <;> decide +kernel

end Catalog

end Codebook
