import Codebook.Proofs.ImportRow.Reading

/-!
# The open answer of a text

Where a reading makes sure of the local header and the open answer, the rows have a local header, and
each answer with the code of the open answer has its text, its settings and the group of the local
header. There is such an answer unless a header of the text passes for it: a header with the code and
the text of the open answer keeps the open answer from being added (`openAnswer_of_parse`).
-/

namespace Codebook.ImportRow

open Definition

/-! ## What the open answer looks like -/

/-- Whether a row has the settings of the open answer. -/
def HasOpenAnswerSettings (row : ImportRow) : Prop :=
  ∀ setting ∈ openAnswerSettings, row.settings.get? setting.1 = some setting.2

instance : DecidablePred HasOpenAnswerSettings := fun row =>
  inferInstanceAs (Decidable (∀ setting ∈ openAnswerSettings, row.settings.get? setting.1 = some setting.2))

/-- Whether tokens have a header with the code and the text of the open answer, but no such item. -/
def HidesOpenAnswer (tokens : List Token) : Prop :=
  (∃ label line properties, .headerOpen openAnswerCode label line properties ∈ tokens ∧
    readsAsOpenAnswer label = true) ∧
  ∀ label line properties, .item openAnswerCode label line properties ∈ tokens →
    readsAsOpenAnswer label = false

theorem hasOpenAnswerSettings_openAnswer : openAnswer.HasOpenAnswerSettings := by
  decide

theorem hasOpenAnswerSettings_item {code label : String} {properties : Properties}
    (reads : readsAsOpenAnswer label = true) : (item code label properties).HasOpenAnswerSettings := by
  rw [item_eq]
  simp only
  rw [if_pos reads]
  exact hasOpenAnswerSettings_openAnswer

/-! ## Answers with the code of the open answer -/

section Tokens

variable {alcoholic : List String} {tokens : List Token}

theorem item_mem_unclaimed {label : String} {line : Nat} {properties : Properties}
    (token : .item openAnswerCode label line properties ∈ tokens)
    (reads : readsAsOpenAnswer label = true) :
    item openAnswerCode label properties ∈ unclaimed alcoholic tokens := by
  refine mem_unclaimed.2 ⟨item_mem_found token alcoholic, ?_⟩
  rw [item_claimsOpenAnswerCode, reads, Bool.not_true, Bool.and_false]

/-- An answer that has the name of the open answer and does not claim it is an item with its text. -/
theorem exists_item_of_mem_unclaimed {row : ImportRow} (member : row ∈ unclaimed alcoholic tokens)
    (answer : row.isHeader = false) (name : row.objectName = openAnswerName) :
    ∃ label line properties, .item openAnswerCode label line properties ∈ tokens ∧
      readsAsOpenAnswer label = true ∧ item openAnswerCode label properties = row := by
  obtain ⟨among, free⟩ := mem_unclaimed.1 member
  rcases mem_found.1 among with ⟨_, _, _, _, _, rfl⟩ | ⟨code, label, line, properties, token, rfl⟩
  · cases answer
  · rw [item_objectName, openAnswerName, objectNameOf_inj] at name
    subst name
    rw [item_claimsOpenAnswerCode, beq_self_eq_true, Bool.true_and, Bool.not_eq_false'] at free
    exact ⟨label, line, properties, token, free, rfl⟩

/-- An item is kept as the open answer exactly if it has its code and its text. -/
theorem isAnswer_unclaimed_iff :
    (∃ row ∈ unclaimed alcoholic tokens, row.isHeader = false ∧ row.objectName = openAnswerName) ↔
      ∃ label line properties, .item openAnswerCode label line properties ∈ tokens ∧
        readsAsOpenAnswer label = true := by
  constructor
  · rintro ⟨row, member, answer, name⟩
    obtain ⟨label, line, properties, token, reads, _⟩ := exists_item_of_mem_unclaimed member answer name
    exact ⟨label, line, properties, token, reads⟩
  · rintro ⟨label, line, properties, token, reads⟩
    exact ⟨_, item_mem_unclaimed token reads, item_isHeader .., item_objectName ..⟩

/-- The open answer counts as present also where only a header passes for it. -/
theorem hasOpenAnswer_unclaimed_iff :
    hasOpenAnswer (unclaimed alcoholic tokens) = true ↔
      (∃ label line properties, .headerOpen openAnswerCode label line properties ∈ tokens ∧
        readsAsOpenAnswer label = true) ∨
      ∃ label line properties, .item openAnswerCode label line properties ∈ tokens ∧
        readsAsOpenAnswer label = true := by
  rw [hasOpenAnswer, List.any_eq_true]
  simp only [Bool.and_eq_true, beq_iff_eq]
  constructor
  · rintro ⟨row, member, name, reads⟩
    rcases mem_found.1 (mem_unclaimed.1 member).1 with
      ⟨code, label, line, properties, token, rfl⟩ | ⟨code, label, line, properties, token, rfl⟩
    · obtain rfl : code = openAnswerCode := objectNameOf_inj.1 name
      exact .inl ⟨label, line, properties, token, reads⟩
    · rw [item_objectName, openAnswerName, objectNameOf_inj] at name
      subst name
      rw [isOpenAnswer, item_text] at reads
      exact .inr ⟨label, line, properties, token, reads⟩
  · rintro (⟨label, line, properties, token, reads⟩ | ⟨label, line, properties, token, reads⟩)
    · exact ⟨_, mem_unclaimed.2 ⟨header_mem_found token alcoholic, rfl⟩, rfl, reads⟩
    · refine ⟨_, item_mem_unclaimed token reads, item_objectName .., ?_⟩
      rw [isOpenAnswer, item_text, reads]

/-- There is an answer with the code of the open answer unless a header passes for it. -/
theorem isAnswer_completedRows_iff :
    (∃ row ∈ completedRows alcoholic tokens, row.isHeader = false ∧ row.objectName = openAnswerName) ↔
      ¬HidesOpenAnswer tokens := by
  have unclaimedAnswer := @isAnswer_unclaimed_iff alcoholic tokens
  have present := @hasOpenAnswer_unclaimed_iff alcoholic tokens
  constructor
  · rintro ⟨row, member, answer, name⟩ ⟨hidden, items⟩
    rcases mem_completed.1 member with among | ⟨_, rfl⟩ | ⟨absent, _⟩
    · obtain ⟨label, line, properties, token, reads⟩ := unclaimedAnswer.1 ⟨row, among, answer, name⟩
      cases reads.symm.trans (items label line properties token)
    · cases answer
    · cases absent.symm.trans (present.2 (.inl hidden))
  · intro shown
    cases lacking : hasOpenAnswer (unclaimed alcoholic tokens) with
    | false => exact ⟨openAnswer, mem_completed.2 (.inr (.inr ⟨lacking, rfl⟩)), rfl, rfl⟩
    | true =>
      have item : ∃ label line properties, .item openAnswerCode label line properties ∈ tokens ∧
          readsAsOpenAnswer label = true := by
        rcases present.1 lacking with hidden | item
        · by_contra noItem
          refine shown ⟨hidden, fun label line properties token => ?_⟩
          rw [← Bool.not_eq_true]
          exact fun reads => noItem ⟨label, line, properties, token, reads⟩
        · exact item
      obtain ⟨row, among, answer, name⟩ := unclaimedAnswer.2 item
      exact ⟨row, mem_completed.2 (.inl among), answer, name⟩

/-- An answer with the code of the open answer has its text and its settings. -/
theorem isOpenAnswer_of_mem_completedRows {row : ImportRow}
    (member : row ∈ completedRows alcoholic tokens) (answer : row.isHeader = false)
    (name : row.objectName = openAnswerName) :
    row.isOpenAnswer = true ∧ row.HasOpenAnswerSettings := by
  rcases mem_completed.1 member with among | ⟨_, rfl⟩ | ⟨_, rfl⟩
  · obtain ⟨label, line, properties, _, reads, rfl⟩ := exists_item_of_mem_unclaimed among answer name
    exact ⟨by rw [isOpenAnswer, item_text, reads], hasOpenAnswerSettings_item reads⟩
  · cases answer
  · exact ⟨by decide +kernel, hasOpenAnswerSettings_openAnswer⟩

end Tokens

/-! ## The group of the open answer -/

theorem headerPosition?_isSome {rows : List ImportRow} (present : hasLocalHeader rows = true) :
    ∃ place, headerPosition? rows localName = some place := by
  have header : (rows.find? fun row => row.isHeader && row.objectName == localName).isSome = true := by
    rw [List.find?_isSome]
    simpa only [hasLocalHeader, List.any_eq_true] using present
  obtain ⟨row, first⟩ := Option.isSome_iff_exists.1 header
  exact ⟨row.position, by rw [headerPosition?, first]; rfl⟩

theorem hundredName?_openAnswerCode : hundredName? openAnswerCode = some localName := by
  decide +kernel

/-- Answers with the code of the open answer belong to the local header. -/
theorem groupIdIn_openAnswer {rows : List ImportRow} {row : ImportRow} {place : Int}
    (first : headerPosition? rows localName = some place) (answer : row.isHeader = false)
    (name : row.objectName = openAnswerName) : groupIdIn rows row = toString place := by
  have kind : ¬row.isHeader = true := by rw [answer]; exact Bool.false_ne_true
  rw [groupIdIn, if_neg kind, code_eq name, hundredName?_openAnswerCode, Option.bind_some, first]
  rfl

/-! ## Readings -/

theorem hasLocalHeader_placed {rows : List ImportRow} (present : hasLocalHeader rows = true) :
    hasLocalHeader (placed rows) = true :=
  (any_placed (fun _ => rfl) rows).trans present

/-- Rows that are made sure of have a local header, and each answer with the code of the open answer is
the open answer and belongs to it; there is such an answer unless a header passes for it. -/
theorem openAnswer_of_parse {reading : Reading} {text : String} {parsed : Parsed}
    (completes : reading.completes (tokenize text) = true)
    (ok : (parse reading text).outcome = .ok parsed) :
    ∃ place, headerPosition? parsed.rows localName = some place ∧
      (∀ row ∈ parsed.rows, row.isHeader = false → row.objectName = openAnswerName →
        row.isOpenAnswer = true ∧ row.HasOpenAnswerSettings ∧ row.groupId = toString place) ∧
      ((∃ row ∈ parsed.rows, row.isHeader = false ∧ row.objectName = openAnswerName) ↔
        ¬HidesOpenAnswer (tokenize text)) := by
  obtain ⟨-, -, rfl⟩ := ofTokens_eq_ok_iff.1 ok
  have completed : unplaced reading (tokenize text) = completedRows reading.alcoholic (tokenize text) := by
    rw [unplaced, if_pos completes]
  have present : hasLocalHeader (completedRows reading.alcoholic (tokenize text)) = true :=
    hasLocalHeader_addOpenAnswer hasLocalHeader_addLocalHeader
  simp only [completed]
  obtain ⟨place, first⟩ := headerPosition?_isSome (hasLocalHeader_placed present)
  refine ⟨place, first, ?_, ?_⟩
  · intro row member answer name
    obtain ⟨original, among, number, rfl⟩ := exists_of_mem_placed member
    obtain ⟨reads, settings⟩ := isOpenAnswer_of_mem_completedRows among answer name
    exact ⟨reads, settings, groupIdIn_openAnswer first answer name⟩
  · rw [← isAnswer_completedRows_iff]
    constructor
    · rintro ⟨row, member, answer, name⟩
      obtain ⟨original, among, number, rfl⟩ := exists_of_mem_placed member
      exact ⟨original, among, answer, name⟩
    · rintro ⟨row, member, answer, name⟩
      obtain ⟨place, among⟩ := exists_mem_placed member
      exact ⟨_, among, answer, name⟩

/-- A text that gives the code of the open answer to another item and has the open answer itself under
an item with the code of the local header. -/
def disputed : String :=
  "_1099 \"Draught\", _1000 \"Local\", _1000 \"Local\" \x7b _1099 \" OTHER (specify)\" \x7d"

/-- The open answer of such a text is found, and the other item with its code is set aside. -/
theorem openAnswer_of_disputed :
    Reading.completes ⟨[], false, none⟩ (tokenize disputed) = true ∧
      ∃ parsed, (parse ⟨[], false, none⟩ disputed).outcome = .ok parsed ∧
        parsed.malformed.length = 1 ∧
          ∃ place, headerPosition? parsed.rows localName = some place ∧
            ∃ row ∈ parsed.rows, row.isHeader = false ∧ row.objectName = openAnswerName ∧
              row.isOpenAnswer = true ∧ row.HasOpenAnswerSettings ∧ row.groupId = toString place := by
  have completes : Reading.completes ⟨[], false, none⟩ (tokenize disputed) = true := by decide +kernel
  have ok : (parse ⟨[], false, none⟩ disputed).outcome =
      .ok ⟨placed (unplaced ⟨[], false, none⟩ (tokenize disputed)),
        fragmentsOf ⟨[], false, none⟩ (tokenize disputed)⟩ :=
    ofTokens_eq_ok_iff.2 ⟨nofun, by decide +kernel, rfl⟩
  have shown : ¬HidesOpenAnswer (tokenize disputed) := by
    rintro ⟨-, items⟩
    have reads : readsAsOpenAnswer " OTHER (specify)" = true := by decide +kernel
    cases reads.symm.trans (items " OTHER (specify)" 1 [] (by decide +kernel))
  obtain ⟨place, first, answers, present⟩ := openAnswer_of_parse completes ok
  obtain ⟨row, member, answer, name⟩ := present.2 shown
  exact ⟨completes, _, ok, by decide +kernel, place, first, row, member, answer, name,
    answers row member answer name⟩

/-- A header that passes for the open answer leaves a text without it. -/
theorem no_openAnswer_beside_header :
    (parse ⟨[], false, none⟩ "_1099 \"Other (specify)\" \x7b\x7d").outcome.toOption.map
        (fun parsed => parsed.rows.map fun row => (row.objectName, row.isHeader)) =
      some [(openAnswerName, true), (localName, true)] := by
  decide +kernel

end Codebook.ImportRow
