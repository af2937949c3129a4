import Codebook.Proofs.ImportRow.OpenAnswer
import Codebook.Proofs.Taxonomy.Partition

/-!
# Open answers in the local group

Building drops a category that reads as the open answer and has the local header. Reading goes by the
number of a category's code and not by the header under which it is written, so a category of another
header whose code belongs to the local hundred is a second open answer of the local group. There is no
other one (`length_openAnswersAt_of_build`).
-/

namespace Codebook

open Definition ImportRow Text

namespace ImportRow

/-! ## Open answers among placed rows -/

/-- The answers of a group that read as the open answer, the group being given by its position. -/
def openAnswersAt (place : Int) (rows : List ImportRow) : List ImportRow :=
  rows.filter fun row => !row.isHeader && row.groupId == toString place && row.isOpenAnswer

/-- Whether a code belongs to the local hundred and a label reads as the open answer once it is written. -/
def passesForOpenAnswer (code label : String) : Bool :=
  hundredName? code == some localName && readsAsOpenAnswer (onOneLine label)

/-- Whether a row is an answer of the local hundred that reads as the open answer. -/
def isLocalOpenAnswer (row : ImportRow) : Bool :=
  !row.isHeader && hundredName? row.code == some localName && row.isOpenAnswer

/-- The open answers of the first local header are the answers of its hundred that read so. -/
theorem length_openAnswersAt {rows : List ImportRow} {place : Int}
    (first : headerPosition? (placed rows) localName = some place) :
    (openAnswersAt place (placed rows)).length = rows.countP isLocalOpenAnswer := by
  have same : openAnswersAt place (placed rows) = (placed rows).filter isLocalOpenAnswer := by
    refine List.filter_congr fun row member => ?_
    rw [isLocalOpenAnswer]
    cases kind : row.isHeader with
    | true => rfl
    | false =>
      have group : (row.groupId == toString place) = (hundredName? row.code == some localName) := by
        rw [Bool.eq_iff_iff, beq_iff_eq, beq_iff_eq]
        exact groupId_eq_headerPosition_iff first member kind
      rw [group]
  rw [same, ← List.countP_eq_length_filter, countP_placed fun _ => rfl]

end ImportRow

namespace Taxonomy

/-! ## Open answers of a taxonomy -/

theorem isLocalOpenAnswer_row (c : Category) :
    isLocalOpenAnswer c.row = passesForOpenAnswer c.code c.label := by
  have text : c.row.text = onOneLine c.label := item_text ..
  rw [isLocalOpenAnswer, isHeader_row, code_row, isOpenAnswer, text, Bool.not_false, Bool.true_and,
    passesForOpenAnswer]

/-- The local open answers among the rows of a taxonomy are categories, and the one at the end. -/
theorem countP_isLocalOpenAnswer_rows (alcoholic : List String) (t : Taxonomy) :
    (t.rows alcoholic).countP isLocalOpenAnswer =
      t.categories.countP (fun c => passesForOpenAnswer c.code c.label) + 1 := by
  have last : isLocalOpenAnswer openAnswer = true := by decide +kernel
  have headers : ∀ row, row.isHeader = true → isLocalOpenAnswer row = false := by
    intro row kind
    rw [isLocalOpenAnswer, kind]
    rfl
  rw [countP_rows headers, last, if_pos rfl]
  simp only [isLocalOpenAnswer_row]

/-! ## The categories of a table -/

section Table

variable {source : Source} {table : List Row}

theorem countP_categories (p : String → String → Bool) :
    (taxonomyOf source table).categories.countP (fun c => p c.code c.label) =
      ((candidates source table).filterMap headed?).countP fun kept => p kept.1.code kept.1.label := by
  rw [(perm_categories source table).countP_eq, List.countP_map, keptRows, keptOf, List.countP_map]
  rfl

/-- Whether the labels that read as the open answer once they are written read so as they stand. -/
def HasFoldedLabels (source : Source) (table : List Row) : Prop :=
  ∀ c ∈ candidates source table, readsAsOpenAnswer (onOneLine c.label) = true →
    readsAsOpenAnswer c.label = true

instance (source : Source) (table : List Row) : Decidable (HasFoldedLabels source table) :=
  inferInstanceAs (Decidable (∀ c ∈ candidates source table, _ → _))

/-- A category that reads as the open answer is not kept under the local header. -/
theorem not_reads_of_local (folded : HasFoldedLabels source table) {kept : Candidate × String}
    (member : kept ∈ (candidates source table).filterMap headed?) (isLocal : kept.2 = localCode) :
    readsAsOpenAnswer (onOneLine kept.1.label) = false := by
  obtain ⟨among, given⟩ := mem_filterMap_headed?_iff.1 member
  rw [← Bool.not_eq_true]
  intro reads
  have header := (verdict_eq_kept given).1
  rw [isLocal] at header
  rw [verdict, header] at given
  simp only [folded _ among reads, beq_self_eq_true, Bool.and_self, Bool.or_true, if_true] at given
  split at given <;> cases given

end Table

/-- A table with writable codes is built and written, and its text is read with a local header. Under this
header there is the open answer, and with it each category that is kept under another header although its
code belongs to the local hundred, if it reads as the open answer too; under the local header itself no
category that reads so is kept. -/
theorem length_openAnswersAt_of_build {source : Source} {table : List Row}
    (writable : HasWritableCodes source table) (folded : HasFoldedLabels source table)
    {workbook : Workbook} {sheet : String} {offset : Number}
    (loaded : Table.load workbook sheet offset = .ok source.containers) (alcoholic : List String)
    (strict : Bool) :
    ∃ t parsed place, (build source table).outcome = .ok t ∧
      (parse ⟨alcoholic, strict, none⟩ (renderTaxonomy t).text).outcome = .ok parsed ∧
      parsed.malformed = [] ∧ headerPosition? parsed.rows localName = some place ∧
      (openAnswersAt place parsed.rows).length =
        ((candidates source table).filterMap headed?).countP (fun kept =>
          kept.2 != localCode && passesForOpenAnswer kept.1.code kept.1.label) + 1 ∧
      ∀ c ∈ candidates source table, c.headerCode = some localCode →
        readsAsOpenAnswer (onOneLine c.label) = true → headed? c = none := by
  have built := build_ok writable (hasNumberedColumns_load loaded)
  have readable := isWritable_taxonomyOf writable
  have parsed := outcome_parse_renderTaxonomy readable.isLegible alcoholic strict
  rw [readRows_eq readable] at parsed
  have present : hasLocalHeader ((taxonomyOf source table).rows alcoholic) = true := by
    rw [← readRows_eq readable]
    exact hasLocalHeader_readRows alcoholic _
  obtain ⟨place, first⟩ := headerPosition?_isSome (hasLocalHeader_placed present)
  have others : ((candidates source table).filterMap headed?).countP (fun kept =>
      passesForOpenAnswer kept.1.code kept.1.label) =
        ((candidates source table).filterMap headed?).countP fun kept =>
          kept.2 != localCode && passesForOpenAnswer kept.1.code kept.1.label := by
    refine List.countP_congr fun kept member => ?_
    by_cases isLocal : kept.2 = localCode
    · rw [passesForOpenAnswer, not_reads_of_local folded member isLocal, Bool.and_false, Bool.and_false]
    · rw [bne_iff_ne.2 isLocal, Bool.true_and]
  refine ⟨_, _, place, built, parsed, rfl, first, ?_, fun c among header reads => ?_⟩
  · rw [length_openAnswersAt first, countP_isLocalOpenAnswer_rows, countP_categories, others]
  · cases headed : headed? c with
    | none => rfl
    | some kept =>
      have member := List.mem_filterMap.2 ⟨c, among, headed⟩
      obtain ⟨given, same⟩ := headed?_eq_some_iff.1 headed
      have code := (verdict_eq_kept given).1
      rw [header, Option.some.injEq] at code
      rw [← same] at reads
      cases reads.symm.trans (not_reads_of_local folded member code.symm)

/-- A category table with a category that reads as the open answer, under the given header. -/
def secondOpenAnswer (header : String) : List Row :=
  [[("A", some "Label"), ("B", some "Code"), ("C", some "Definition")],
    [("A", some " other (SPECIFY)"), ("B", some "1050"), ("C", some "Diary"), ("D", some "Drinks"),
      ("E", some header)]]

/-- Under the local header the category is dropped. -/
theorem length_openAnswersAt_local :
    HasWritableCodes sole (secondOpenAnswer localCode) ∧
      HasFoldedLabels sole (secondOpenAnswer localCode) ∧
      Table.load [("Boxes", flagged)] "Boxes" (.whole 0) = .ok sole.containers ∧
      ∃ t parsed place, (build sole (secondOpenAnswer localCode)).outcome = .ok t ∧
        (parse ⟨[], true, none⟩ (renderTaxonomy t).text).outcome = .ok parsed ∧
        headerPosition? parsed.rows localName = some place ∧
        (openAnswersAt place parsed.rows).length = 1 := by
  have writable : HasWritableCodes sole (secondOpenAnswer localCode) := by decide +kernel
  have folded : HasFoldedLabels sole (secondOpenAnswer localCode) := by decide +kernel
  have loaded : Table.load [("Boxes", flagged)] "Boxes" (.whole 0) = .ok sole.containers := rfl
  obtain ⟨t, parsed, place, built, read, _, first, count, _⟩ :=
    length_openAnswersAt_of_build writable folded loaded [] true
  have none : ((candidates sole (secondOpenAnswer localCode)).filterMap headed?).countP (fun kept =>
      kept.2 != localCode && passesForOpenAnswer kept.1.code kept.1.label) = 0 := by
    decide +kernel
  rw [none] at count
  exact ⟨writable, folded, loaded, t, parsed, place, built, read, first, count⟩

/-- Under another header the category is kept, and is read as a second open answer of the local group. -/
theorem two_openAnswersAt_misplaced :
    HasWritableCodes sole (secondOpenAnswer "1100") ∧
      Table.load [("Boxes", flagged)] "Boxes" (.whole 0) = .ok sole.containers ∧
      ∃ t parsed place, (build sole (secondOpenAnswer "1100")).outcome = .ok t ∧
        (parse ⟨[], true, none⟩ (renderTaxonomy t).text).outcome = .ok parsed ∧
        headerPosition? parsed.rows localName = some place ∧
        (openAnswersAt place parsed.rows).map ImportRow.objectName = ["_1050", openAnswerName] := by
  have writable : HasWritableCodes sole (secondOpenAnswer "1100") := by decide +kernel
  have loaded : Table.load [("Boxes", flagged)] "Boxes" (.whole 0) = .ok sole.containers := rfl
  have readable := isWritable_taxonomyOf writable
  have parsed := outcome_parse_renderTaxonomy readable.isLegible [] true
  rw [readRows_eq readable] at parsed
  exact ⟨writable, loaded, _, _, 3, build_ok writable (hasNumberedColumns_load loaded), parsed,
    by decide +kernel, by decide +kernel⟩

end Taxonomy

end Codebook
