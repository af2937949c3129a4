import Codebook.Proofs.ImportRow.Placing

/-!
# Rows of tokens

Reading tokens comes to three things: `fragmentsOf` says which fragments are set aside, `unplaced` which
rows there are before they have positions and groups, and the rows are those, placed. So a strict reading
fails with the first fragment, and a lenient one fails only where the rows cannot be placed
(`outcome_ofTokens`).
-/

namespace Codebook.ImportRow

open Definition

/-! ## Names and codes -/

theorem objectNameOf_inj {a b : String} : objectNameOf a = objectNameOf b ↔ a = b := by
  rw [objectNameOf, objectNameOf, String.append_right_inj]

/-- The code of a row is the one that its object name was made of. -/
theorem code_eq {row : ImportRow} {code : String} (name : row.objectName = objectNameOf code) :
    row.code = code := by
  rw [ImportRow.code, name, objectNameOf, String.toList_append]
  exact String.ofList_toList

section Item

variable (code label : String) (properties : Properties)

/-- An item has the settings of the open answer exactly if its text reads as the open answer. -/
theorem item_eq :
    item code label properties =
      let row := { plain label (objectNameOf code) with properties := properties }
      if readsAsOpenAnswer label then row.withOpenAnswerSettings else row := rfl

@[simp]
theorem item_objectName : (item code label properties).objectName = objectNameOf code := by
  unfold item
  simp only
  split <;> rfl

@[simp]
theorem item_isHeader : (item code label properties).isHeader = false := by
  unfold item
  simp only
  split <;> rfl

@[simp]
theorem item_text : (item code label properties).text = label := by
  unfold item
  simp only
  split <;> rfl

/-- Only an item with the code of the open answer and another text claims that code. -/
theorem item_claimsOpenAnswerCode :
    (item code label properties).claimsOpenAnswerCode =
      (code == openAnswerCode && !readsAsOpenAnswer label) := by
  have names : (objectNameOf code == openAnswerName) = (code == openAnswerCode) := by
    rw [Bool.eq_iff_iff, beq_iff_eq, beq_iff_eq, openAnswerName, objectNameOf_inj]
  rw [claimsOpenAnswerCode, isOpenAnswer, item_isHeader, item_objectName, item_text, names]
  rfl

end Item

/-! ## Fragments -/

/-- Fragments stop a reading only where it is strict and there is one. -/
theorem outcome_setAside (strict : Bool) (fragments : List Fragment) :
    (setAside strict fragments).outcome =
      match strict, fragments with
      | true, fragment :: _ => .error (.malformedFragment fragment.line fragment.text)
      | _, _ => .ok () := by
  induction fragments with
  | nil => cases strict <;> rfl
  | cons fragment rest ih =>
    cases strict with
    | true => rfl
    | false =>
      rw [setAside, if_neg Bool.false_ne_true, Report.outcome_bind, ih]
      rfl

theorem outcome_setAside_append (strict : Bool) (first second : List Fragment) :
    (setAside strict (first ++ second)).outcome =
      (setAside strict first).outcome >>= fun _ => (setAside strict second).outcome := by
  simp only [outcome_setAside]
  cases strict <;> cases first <;> rfl

theorem setAside_eq_ok_iff {strict : Bool} {fragments : List Fragment} :
    (setAside strict fragments).outcome = .ok () ↔ (strict = true → fragments = []) := by
  rw [outcome_setAside]
  cases strict <;> cases fragments <;> simp

/-! ## The local header and the open answer -/

/-- Whether there is a header with the name of the local one. -/
def hasLocalHeader (rows : List ImportRow) : Bool :=
  rows.any fun row => row.isHeader && row.objectName == localName

/-- Whether there is a row, header or not, with the name and the text of the open answer. -/
def hasOpenAnswer (rows : List ImportRow) : Bool :=
  rows.any fun row => row.objectName == openAnswerName && row.isOpenAnswer

/-- Rows with the local header at their end if there was none. -/
def addLocalHeader (alcoholic : List String) (rows : List ImportRow) : List ImportRow :=
  if hasLocalHeader rows then rows else rows ++ [header alcoholic localCode localLabel []]

/-- Rows with the open answer at their end if there was none. -/
def addOpenAnswer (rows : List ImportRow) : List ImportRow :=
  if hasOpenAnswer rows then rows else rows ++ [openAnswer]

theorem outcome_withLocalHeader (alcoholic : List String) (rows : List ImportRow) :
    (withLocalHeader alcoholic rows).outcome = .ok (addLocalHeader alcoholic rows) := by
  rw [withLocalHeader, addLocalHeader, hasLocalHeader]
  split <;> rfl

theorem outcome_withOpenAnswer (rows : List ImportRow) :
    (withOpenAnswer rows).outcome = .ok (addOpenAnswer rows) := by
  rw [withOpenAnswer, addOpenAnswer, hasOpenAnswer]
  split <;> rfl

/-! ## Rows before they are placed -/

/-- Whether a reading makes sure of the local header and the open answer. -/
def Reading.completes (reading : Reading) (tokens : List Token) : Bool :=
  reading.completed.getD (tokens.any isHeaderToken)

/-- The rows of the headers and the items among tokens, with their lines. -/
def found (alcoholic : List String) (tokens : List Token) : List (ImportRow × Nat) :=
  tokens.filterMap (ofToken? alcoholic)

/-- The fragments of the items that have the code of the open answer without its text. -/
def claims (alcoholic : List String) (tokens : List Token) : List Fragment :=
  ((found alcoholic tokens).filter fun (row, _) => row.claimsOpenAnswerCode).map
    fun (row, line) => claimOf row line

/-- The rows of the other items and of the headers. -/
def unclaimed (alcoholic : List String) (tokens : List Token) : List ImportRow :=
  ((found alcoholic tokens).filter fun (row, _) => !row.claimsOpenAnswerCode).map Prod.fst

/-- Those rows with the local header and the open answer made sure of. -/
def completedRows (alcoholic : List String) (tokens : List Token) : List ImportRow :=
  addOpenAnswer (addLocalHeader alcoholic (unclaimed alcoholic tokens))

/-- The rows of tokens before they have positions and groups. -/
def unplaced (reading : Reading) (tokens : List Token) : List ImportRow :=
  if reading.completes tokens then completedRows reading.alcoholic tokens
  else (found reading.alcoholic tokens).map Prod.fst

/-- The fragments that are set aside. -/
def fragmentsOf (reading : Reading) (tokens : List Token) : List Fragment :=
  tokens.filterMap fragmentOf?
    ++ if reading.completes tokens then claims reading.alcoholic tokens else []

theorem found_append (alcoholic : List String) (first second : List Token) :
    found alcoholic (first ++ second) = found alcoholic first ++ found alcoholic second :=
  List.filterMap_append

theorem found_item (alcoholic : List String) (code label : String) (line : Nat)
    (properties : Properties) (rest : List Token) :
    found alcoholic (.item code label line properties :: rest) =
      (item code label properties, line) :: found alcoholic rest :=
  List.filterMap_cons_some rfl

theorem found_headerOpen (alcoholic : List String) (code label : String) (line : Nat)
    (properties : Properties) (rest : List Token) :
    found alcoholic (.headerOpen code label line properties :: rest) =
      (header alcoholic code label properties, line) :: found alcoholic rest :=
  List.filterMap_cons_some rfl

/-- The rows that are found are those of the headers and of the items. -/
theorem mem_found {alcoholic : List String} {tokens : List Token} {row : ImportRow} :
    row ∈ (found alcoholic tokens).map Prod.fst ↔
      (∃ code label line properties, .headerOpen code label line properties ∈ tokens ∧
        header alcoholic code label properties = row) ∨
      ∃ code label line properties, .item code label line properties ∈ tokens ∧
        item code label properties = row := by
  simp only [found, List.mem_map, List.mem_filterMap, Prod.exists, exists_and_right, exists_eq_right]
  constructor
  · rintro ⟨line, token, member, made⟩
    cases token with
    | headerOpen code label line properties =>
      simp only [ofToken?, Option.some.injEq, Prod.mk.injEq] at made
      exact .inl ⟨code, label, line, properties, member, made.1⟩
    | item code label line properties =>
      simp only [ofToken?, Option.some.injEq, Prod.mk.injEq] at made
      exact .inr ⟨code, label, line, properties, member, made.1⟩
    | _ => cases made
  · rintro (⟨code, label, line, properties, member, rfl⟩ | ⟨code, label, line, properties, member, rfl⟩)
    · exact ⟨line, _, member, rfl⟩
    · exact ⟨line, _, member, rfl⟩

theorem header_mem_found {tokens : List Token} {code label : String} {line : Nat}
    {properties : Properties} (token : .headerOpen code label line properties ∈ tokens)
    (alcoholic : List String) :
    header alcoholic code label properties ∈ (found alcoholic tokens).map Prod.fst :=
  mem_found.2 (.inl ⟨code, label, line, properties, token, rfl⟩)

theorem item_mem_found {tokens : List Token} {code label : String} {line : Nat}
    {properties : Properties} (token : .item code label line properties ∈ tokens)
    (alcoholic : List String) : item code label properties ∈ (found alcoholic tokens).map Prod.fst :=
  mem_found.2 (.inr ⟨code, label, line, properties, token, rfl⟩)

theorem unclaimed_eq (alcoholic : List String) (tokens : List Token) :
    unclaimed alcoholic tokens =
      ((found alcoholic tokens).map Prod.fst).filter fun row => !row.claimsOpenAnswerCode := by
  rw [unclaimed, List.filter_map]
  rfl

theorem unclaimed_eq_self {alcoholic : List String} {tokens : List Token}
    (free : ∀ row ∈ (found alcoholic tokens).map Prod.fst, row.claimsOpenAnswerCode = false) :
    unclaimed alcoholic tokens = (found alcoholic tokens).map Prod.fst := by
  rw [unclaimed_eq, List.filter_eq_self]
  intro row member
  rw [free row member]
  rfl

theorem claims_eq_nil {alcoholic : List String} {tokens : List Token}
    (free : ∀ row ∈ (found alcoholic tokens).map Prod.fst, row.claimsOpenAnswerCode = false) :
    claims alcoholic tokens = [] := by
  rw [claims, List.map_eq_nil_iff, List.filter_eq_nil_iff]
  intro entry member claiming
  cases claiming.symm.trans (free entry.1 (List.mem_map_of_mem member))

/-! ## Rows that are made sure of -/

section Completed

variable {alcoholic : List String} {rows : List ImportRow} {row : ImportRow}

theorem hasLocalHeader_addLocalHeader : hasLocalHeader (addLocalHeader alcoholic rows) = true := by
  unfold addLocalHeader
  split
  · next present => exact present
  · refine List.any_eq_true.2 ⟨header alcoholic localCode localLabel [], ?_, rfl⟩
    exact List.mem_append_right _ List.mem_cons_self

theorem hasLocalHeader_addOpenAnswer (present : hasLocalHeader rows = true) :
    hasLocalHeader (addOpenAnswer rows) = true := by
  unfold addOpenAnswer
  split
  · exact present
  · rw [hasLocalHeader, List.any_append, ← hasLocalHeader, present, Bool.true_or]

/-- The local header does not pass for the open answer. -/
theorem hasOpenAnswer_addLocalHeader :
    hasOpenAnswer (addLocalHeader alcoholic rows) = hasOpenAnswer rows := by
  unfold addLocalHeader
  split
  · rfl
  · have other : hasOpenAnswer [header alcoholic localCode localLabel []] = false := by
      have names : ((header alcoholic localCode localLabel []).objectName == openAnswerName) = false :=
        beq_eq_false_iff_ne.2 (show objectNameOf localCode ≠ openAnswerName by decide)
      rw [hasOpenAnswer, List.any_cons, names, Bool.false_and, List.any_nil, Bool.or_false]
    rw [hasOpenAnswer, List.any_append, ← hasOpenAnswer, ← hasOpenAnswer, other, Bool.or_false]

/-- Nothing is added to rows but the local header and the open answer, each only where it lacks. -/
theorem mem_completed : row ∈ addOpenAnswer (addLocalHeader alcoholic rows) ↔
    row ∈ rows ∨ hasLocalHeader rows = false ∧ header alcoholic localCode localLabel [] = row ∨
      hasOpenAnswer rows = false ∧ openAnswer = row := by
  unfold addOpenAnswer
  rw [hasOpenAnswer_addLocalHeader]
  unfold addLocalHeader
  cases hasOpenAnswer rows <;> cases hasLocalHeader rows <;> simp [eq_comm]

theorem mem_unclaimed {tokens : List Token} : row ∈ unclaimed alcoholic tokens ↔
    row ∈ (found alcoholic tokens).map Prod.fst ∧ row.claimsOpenAnswerCode = false := by
  rw [unclaimed_eq, List.mem_filter, Bool.not_eq_true']

end Completed

/-- The object name of a row is made of a code. -/
theorem exists_code_of_mem_unplaced {reading : Reading} {tokens : List Token} {row : ImportRow}
    (member : row ∈ unplaced reading tokens) : ∃ code, row.objectName = objectNameOf code := by
  have ofFound : row ∈ (found reading.alcoholic tokens).map Prod.fst →
      ∃ code, row.objectName = objectNameOf code := by
    intro among
    rcases mem_found.1 among with ⟨code, _, _, _, _, rfl⟩ | ⟨code, _, _, _, _, rfl⟩
    · exact ⟨code, rfl⟩
    · exact ⟨code, item_objectName ..⟩
  unfold unplaced at member
  split at member
  · rcases mem_completed.1 member with among | ⟨_, rfl⟩ | ⟨_, rfl⟩
    · exact ofFound (mem_unclaimed.1 among).1
    · exact ⟨localCode, rfl⟩
    · exact ⟨openAnswerCode, rfl⟩
  · exact ofFound member

/-! ## Readings -/

/-- The outcome of a reading is that of setting the fragments aside and then placing the rows. -/
theorem outcome_ofTokens (reading : Reading) (tokens : List Token) :
    (ofTokens reading tokens).outcome =
      (setAside reading.strict (fragmentsOf reading tokens)).outcome >>= fun _ =>
        ((place (unplaced reading tokens)).mapError .numeral).map
          (⟨·, fragmentsOf reading tokens⟩) := by
  rw [ofTokens, fragmentsOf, unplaced, completedRows, claims, unclaimed, found, Reading.completes]
  split
  · rw [outcome_setAside_append]
    simp only [List.partition_eq_filter_filter, Report.outcome_bind, outcome_withLocalHeader,
      outcome_withOpenAnswer, Report.outcome_ofExcept, Report.outcome_pure, bind_assoc]
    rfl
  · rw [List.append_nil]
    simp only [Report.outcome_bind, Report.outcome_ofExcept, Report.outcome_pure]
    rfl

/-- A reading succeeds exactly if no fragment stops it and each answer has a code that can be read. -/
theorem ofTokens_eq_ok_iff {reading : Reading} {tokens : List Token} {parsed : Parsed} :
    (ofTokens reading tokens).outcome = .ok parsed ↔
      (reading.strict = true → fragmentsOf reading tokens = []) ∧
        (∀ row ∈ unplaced reading tokens, row.isHeader = false → HasNumber row.code) ∧
          parsed = ⟨placed (unplaced reading tokens), fragmentsOf reading tokens⟩ := by
  rw [outcome_ofTokens, ← setAside_eq_ok_iff]
  cases (setAside reading.strict (fragmentsOf reading tokens)).outcome with
  | error failure => simp [bind, Except.bind]
  | ok _ =>
    cases made : place (unplaced reading tokens) with
    | error e =>
      have unread : ¬∀ row ∈ unplaced reading tokens, row.isHeader = false → HasNumber row.code :=
        fun numbered => by cases made.symm.trans (place_eq_ok_iff.2 ⟨numbered, rfl⟩)
      simp [bind, Except.bind, Except.mapError, Except.map, unread]
    | ok rows =>
      obtain ⟨numbered, rfl⟩ := place_eq_ok_iff.1 made
      exact ⟨fun same => ⟨rfl, numbered, (Except.ok.inj same).symm⟩,
        fun ⟨_, _, same⟩ => congrArg Except.ok same.symm⟩

end Codebook.ImportRow
