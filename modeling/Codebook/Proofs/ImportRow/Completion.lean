import Codebook.Proofs.ImportRow.Strictness
import Codebook.Proofs.ImportRow.Tokens

/-!
# What making sure of the open answer changes

A reading that makes sure of the local header and the open answer gives the rows of one that does not, less
the answers that claim the code of the open answer, with the local header and the open answer behind them
where they lacked (`completed_of_plain`). Where no answer is removed the rows keep their positions, and their
groups but for one case: answers of the local hundred get the local header that is added.
-/

namespace Codebook

open Definition Text

namespace Definition

/-- The line of a token. -/
def Token.line : Token → Nat
  | .listOpen _ line => line
  | .headerOpen _ _ line _ => line
  | .blockOpen line => line
  | .item _ _ line _ => line
  | .blockClose _ line => line
  | .listClose line => line
  | .malformed _ line => line

end Definition

namespace ImportRow

/-! ## Rows that are added -/

theorem hasLocalHeader_placed_eq (rows : List ImportRow) :
    hasLocalHeader (placed rows) = hasLocalHeader rows :=
  any_placed (fun _ => rfl) rows

theorem hasOpenAnswer_placed_eq (rows : List ImportRow) :
    hasOpenAnswer (placed rows) = hasOpenAnswer rows :=
  any_placed (fun _ => rfl) rows

/-- The rows that are added to rows: the local header and the open answer, each if it lacks. -/
def completionOf (alcoholic : List String) (rows : List ImportRow) : List ImportRow :=
  (if hasLocalHeader rows then [] else [header alcoholic localCode localLabel []])
    ++ if hasOpenAnswer rows then [] else [openAnswer]

section Rows

variable {alcoholic : List String} {rows : List ImportRow}

theorem addOpenAnswer_addLocalHeader :
    addOpenAnswer (addLocalHeader alcoholic rows) = rows ++ completionOf alcoholic rows := by
  rw [addOpenAnswer, hasOpenAnswer_addLocalHeader, addLocalHeader, completionOf]
  cases hasLocalHeader rows <;> cases hasOpenAnswer rows <;> simp

theorem completionOf_placed : completionOf alcoholic (placed rows) = completionOf alcoholic rows := by
  rw [completionOf, completionOf, hasLocalHeader_placed_eq, hasOpenAnswer_placed_eq]

/-- Answers that claim the code of the open answer are neither the local header nor the open answer. -/
theorem completionOf_filter :
    completionOf alcoholic (rows.filter fun row => !row.claimsOpenAnswerCode) =
      completionOf alcoholic rows := by
  have headers : hasLocalHeader (rows.filter fun row => !row.claimsOpenAnswerCode) = hasLocalHeader rows := by
    rw [hasLocalHeader, List.any_filter, hasLocalHeader]
    refine congrArg rows.any (funext fun row => ?_)
    rw [claimsOpenAnswerCode]
    cases row.isHeader <;> simp
  have answers : hasOpenAnswer (rows.filter fun row => !row.claimsOpenAnswerCode) = hasOpenAnswer rows := by
    rw [hasOpenAnswer, List.any_filter, hasOpenAnswer]
    refine congrArg rows.any (funext fun row => ?_)
    rw [claimsOpenAnswerCode]
    cases row.isOpenAnswer <;> simp
  rw [completionOf, headers, answers, completionOf]

theorem map_withoutPlace_completionOf :
    (completionOf alcoholic rows).map withoutPlace = completionOf alcoholic rows := by
  rw [completionOf]
  cases hasLocalHeader rows <;> cases hasOpenAnswer rows <;> rfl

end Rows

theorem completedRows_eq (alcoholic : List String) (tokens : List Token) :
    completedRows alcoholic tokens =
      (((found alcoholic tokens).map Prod.fst).filter fun row => !row.claimsOpenAnswerCode)
        ++ completionOf alcoholic ((found alcoholic tokens).map Prod.fst) := by
  rw [completedRows, addOpenAnswer_addLocalHeader, unclaimed_eq, completionOf_filter]

/-! ## Fragments that are added -/

/-- The fragments of the rows that claim the code of the open answer, each at the line of its token. -/
def claimsIn (tokens : List Token) (rows : List ImportRow) : List Fragment :=
  ((tokens.zip rows).filter fun p => p.2.claimsOpenAnswerCode).map fun p => claimOf p.2 p.1.line

theorem claimsIn_map_withoutPlace (tokens : List Token) (rows : List ImportRow) :
    claimsIn tokens (rows.map withoutPlace) = claimsIn tokens rows := by
  rw [claimsIn, List.zip_map_right, List.filter_map, List.map_map]
  rfl

theorem claimsIn_placed (tokens : List Token) (rows : List ImportRow) :
    claimsIn tokens (placed rows) = claimsIn tokens rows := by
  rw [← claimsIn_map_withoutPlace, map_placed fun _ => rfl, claimsIn_map_withoutPlace]

theorem line_of_ofToken? {alcoholic : List String} {token : Token} {entry : ImportRow × Nat}
    (made : ofToken? alcoholic token = some entry) : token.line = entry.2 := by
  cases token with
  | headerOpen code label line properties => exact congrArg Prod.snd (Option.some.inj made)
  | item code label line properties => exact congrArg Prod.snd (Option.some.inj made)
  | _ => cases made

theorem claims_eq_claimsIn (alcoholic : List String) (tokens : List Token) :
    claims alcoholic tokens =
      claimsIn (tokens.filter givesRow) ((found alcoholic tokens).map Prod.fst) := by
  have paired : ((tokens.filter givesRow).zip ((found alcoholic tokens).map Prod.fst)).map
      (fun p => (p.2, p.1.line)) = found alcoholic tokens := by
    induction tokens with
    | nil => rfl
    | cons token rest ih =>
      rw [found, List.filterMap_cons, List.filter_cons, ← isSome_ofToken? alcoholic]
      cases made : ofToken? alcoholic token with
      | none => exact ih
      | some entry =>
        rw [Option.isSome_some, if_pos rfl]
        simp only [List.map_cons, List.zip_cons_cons, line_of_ofToken? made]
        exact congrArg (entry :: ·) ih
  rw [claims, claimsIn]
  conv_lhs => rw [← paired, List.filter_map, List.map_map]
  rfl

/-! ## Groups of rows to which rows are added -/

theorem number_append (rows more : List ImportRow) :
    number (rows ++ more) = number rows ++ (more.zipIdx rows.length).map fun p =>
      { p.1 with position := (p.2 + 1 : Nat) } := by
  rw [number, List.zipIdx_append, List.map_append, Nat.zero_add]
  rfl

theorem headerPosition?_append (rows more : List ImportRow) (name : String) :
    headerPosition? (rows ++ more) name = (headerPosition? rows name).or (headerPosition? more name) := by
  rw [headerPosition?, List.find?_append, Option.map_or]
  rfl

theorem headerPosition?_number_eq_none {rows : List ImportRow} (absent : hasLocalHeader rows = false) :
    headerPosition? (number rows) localName = none := by
  rw [headerPosition?, Option.map_eq_none_iff, List.find?_eq_none]
  intro row member opens
  obtain ⟨original, among, place, rfl⟩ := exists_of_mem_number member
  have present : hasLocalHeader rows = true := List.any_eq_true.2 ⟨original, among, opens⟩
  cases absent.symm.trans present

/-- The only header that is added is the local one, behind all rows. -/
theorem headerPosition?_completed (alcoholic : List String) (rows : List ImportRow) (name : String) :
    headerPosition? (number (rows ++ completionOf alcoholic rows)) name =
      (headerPosition? (number rows) name).or
        (if hasLocalHeader rows = false ∧ name = localName then some (rows.length + 1 : Nat) else none) := by
  rw [number_append, headerPosition?_append, completionOf]
  refine congrArg _ ?_
  have answer (place : Nat) : headerPosition? [{ openAnswer with position := (place : Int) }] name = none :=
    headerPosition?_eq_none (List.forall_mem_singleton.2 rfl) name
  have added (place : Nat) (others : List ImportRow) :
      headerPosition? ({ header alcoholic localCode localLabel [] with position := (place : Int) } :: others)
          name = if name = localName then some (place : Int) else headerPosition? others name := by
    have named : (header alcoholic localCode localLabel []).objectName = localName := rfl
    rw [headerPosition?, List.find?_cons, named]
    by_cases same : name = localName
    · rw [if_pos same, same, beq_self_eq_true]
      rfl
    · rw [if_neg same, beq_eq_false_iff_ne.2 (Ne.symm same)]
      rfl
  cases hasLocalHeader rows <;> cases hasOpenAnswer rows
  · show headerPosition? [_, { openAnswer with position := (rows.length + 1 + 1 : Nat) }] name = _
    rw [added, answer]
    simp
  · show headerPosition? [_] name = _
    rw [added]
    simp only [true_and]
    rfl
  · exact answer (rows.length + 1)
  · rfl

/-- The group of an answer of the local hundred is the local header that is added; all other groups stay. -/
theorem groupIdIn_completed (alcoholic : List String) (rows : List ImportRow) {row : ImportRow}
    (numbered : row.isHeader = false → HasNumber row.code) :
    groupIdIn (number (rows ++ completionOf alcoholic rows)) row =
      if row.isHeader = false ∧ IsInHundred row.code 1000 ∧ hasLocalHeader rows = false then
        toString (rows.length + 1)
      else groupIdIn (number rows) row := by
  cases kind : row.isHeader with
  | true => rw [groupIdIn, if_pos kind, if_neg (by simp), groupIdIn, if_pos kind]
  | false =>
    have isLocal : IsInHundred row.code 1000 ↔ hundredName? row.code = some localName :=
      isInHundred_iff (numbered kind)
    rw [groupIdIn, groupIdIn, kind, if_neg Bool.false_ne_true, if_neg Bool.false_ne_true]
    cases named : hundredName? row.code with
    | none =>
      have apart : ¬IsInHundred row.code 1000 := by
        rw [isLocal, named]
        exact (Option.some_ne_none _).symm
      rw [if_neg fun orphan => apart orphan.2.1]
      rfl
    | some name =>
      rw [Option.bind_some, Option.bind_some, headerPosition?_completed]
      by_cases added : hasLocalHeader rows = false ∧ name = localName
      · obtain ⟨absent, rfl⟩ := added
        rw [if_pos ⟨absent, rfl⟩, if_pos ⟨rfl, isLocal.2 named, absent⟩,
          headerPosition?_number_eq_none absent]
        rfl
      · rw [if_neg added, Option.or_none, if_neg]
        rintro ⟨-, within, absent⟩
        exact added ⟨absent, Option.some.inj (named.symm.trans (isLocal.1 within))⟩

/-- A placed row after the local header and the open answer have been made sure of. -/
def regrouped (rows : List ImportRow) (row : ImportRow) : ImportRow :=
  if row.isHeader = false ∧ IsInHundred row.code 1000 ∧ hasLocalHeader rows = false then
    { row with groupId := toString (rows.length + 1) }
  else row

/-- Rows keep their places when others are added, but for the groups that the local header gives. -/
theorem exists_placed_completed (alcoholic : List String) {rows : List ImportRow}
    (numbered : ∀ row ∈ rows, row.isHeader = false → HasNumber row.code) :
    ∃ added, placed (rows ++ completionOf alcoholic rows) =
      (placed rows).map (regrouped (placed rows)) ++ added := by
  have kept : rows.zipIdx.map (inPlace (rows ++ completionOf alcoholic rows)) =
      (placed rows).map (regrouped (placed rows)) := by
    rw [placed_eq_map, List.map_map, ← placed_eq_map]
    refine List.map_congr_left fun p member => ?_
    have group := groupIdIn_completed alcoholic rows (numbered p.1 (List.fst_mem_of_mem_zipIdx member))
    rw [Function.comp_apply, regrouped, hasLocalHeader_placed_eq, length_placed]
    show { p.1 with
      position := (p.2 + 1 : Nat)
      groupId := groupIdIn (number (rows ++ completionOf alcoholic rows)) p.1 } =
        if p.1.isHeader = false ∧ IsInHundred p.1.code 1000 ∧ hasLocalHeader rows = false then _ else _
    rw [group]
    split <;> rfl
  rw [placed_eq_map, List.zipIdx_append, List.map_append, kept]
  exact ⟨_, rfl⟩

/-! ## Readings -/

/-- A reading that makes sure of the local header and the open answer succeeds where one does that does not.
It has the rows of the other one without those that claim the code of the open answer, and after them what was
missing, and its fragments with one for each row that is removed. Where none is removed rows keep their
places, and their groups but for answers of the local hundred that had no header. By default a text is read so
exactly if it has a header. -/
theorem completed_of_plain {alcoholic : List String} {text : String} {plain : Parsed}
    (ok : (parse ⟨alcoholic, false, some false⟩ text).outcome = .ok plain) :
    ∃ completed, (parse ⟨alcoholic, false, some true⟩ text).outcome = .ok completed ∧
      List.Forall₂ (IsRowOf alcoholic) ((tokenize text).filter givesRow) plain.rows ∧
      completed.rows.map withoutPlace =
        (plain.rows.filter fun row => !row.claimsOpenAnswerCode).map withoutPlace
          ++ completionOf alcoholic plain.rows ∧
      completed.malformed =
        plain.malformed ++ claimsIn ((tokenize text).filter givesRow) plain.rows ∧
      ((∀ row ∈ plain.rows, row.claimsOpenAnswerCode = false) →
        ∃ added, completed.rows = plain.rows.map (regrouped plain.rows) ++ added) ∧
      (parse ⟨alcoholic, false, none⟩ text).outcome =
        .ok (if (tokenize text).any isHeaderToken then completed else plain) := by
  obtain ⟨-, numbered, rfl⟩ := ofTokens_eq_ok_iff.1 ok
  have plainRows : unplaced ⟨alcoholic, false, some false⟩ (tokenize text) =
      (found alcoholic (tokenize text)).map Prod.fst := rfl
  have completedOk : (parse ⟨alcoholic, false, some true⟩ text).outcome =
      .ok ⟨placed (completedRows alcoholic (tokenize text)),
        (tokenize text).filterMap fragmentOf? ++ claims alcoholic (tokenize text)⟩ := by
    refine ofTokens_eq_ok_iff.2 ⟨nofun, fun row member answer => ?_, rfl⟩
    rcases mem_completed.1 member with among | ⟨_, rfl⟩ | ⟨_, rfl⟩
    · exact numbered row (mem_unclaimed.1 among).1 answer
    · cases answer
    · decide +kernel
  refine ⟨_, completedOk, forall₂_isRowOf_placed alcoholic (tokenize text), ?_, ?_, fun free => ?_, ?_⟩
  · rw [plainRows, map_placed fun _ => rfl, completedRows_eq, List.map_append, map_withoutPlace_completionOf,
      map_filter_placed fun _ => rfl, completionOf_placed]
  · rw [plainRows, claimsIn_placed, claims_eq_claimsIn, fragmentsOf]
    simp [Reading.completes]
  · rw [plainRows] at numbered
    have all : ∀ row ∈ (found alcoholic (tokenize text)).map Prod.fst, row.claimsOpenAnswerCode = false := by
      intro row member
      obtain ⟨place, among⟩ := exists_mem_placed member
      have here := free _ among
      exact here
    have kept := unclaimed_eq_self all
    rw [unclaimed_eq] at kept
    rw [plainRows, completedRows_eq, kept]
    exact exists_placed_completed alcoholic numbered
  · have byHeaders : parse ⟨alcoholic, false, none⟩ text =
        parse ⟨alcoholic, false, some ((tokenize text).any isHeaderToken)⟩ text := rfl
    rw [byHeaders]
    cases (tokenize text).any isHeaderToken with
    | true => exact completedOk
    | false => exact ok

/-- A text with an answer that claims the code of the open answer. -/
def claiming : String :=
  "_1099 \"Draught\", _1101 \"Cider\""

/-- A text with an answer of the local hundred and without its header. -/
def orphaned : String :=
  "_1050 \"Palm wine\", _1101 \"Cider\""

/-- An answer that claims the code of the open answer is removed, and both rows are added. Where nothing is
removed, an answer of the local hundred gets the local header that is added, and other groups stay. -/
theorem completed_of_plain_claiming :
    (∃ plain completed, (parse ⟨[], false, some false⟩ claiming).outcome = .ok plain ∧
      (parse ⟨[], false, some true⟩ claiming).outcome = .ok completed ∧
      completed.rows.map withoutPlace =
        [item "1101" "Cider" [], header [] localCode localLabel [], openAnswer] ∧
      completed.malformed = [⟨1, "_1099 \"Draught\" uses the reserved \"Other (specify)\" code"⟩]) ∧
    ∃ plain completed added, (parse ⟨[], false, some false⟩ orphaned).outcome = .ok plain ∧
      (parse ⟨[], false, some true⟩ orphaned).outcome = .ok completed ∧
      completed.rows = plain.rows.map (regrouped plain.rows) ++ added ∧
      plain.rows.map (fun row => (row.groupId, (regrouped plain.rows row).groupId)) = [("", "3"), ("", "")] := by
  have read (text : String) (numbered : ∀ row ∈ unplaced ⟨[], false, some false⟩ (tokenize text),
      row.isHeader = false → HasNumber row.code) :
      (parse ⟨[], false, some false⟩ text).outcome =
        .ok ⟨placed (unplaced ⟨[], false, some false⟩ (tokenize text)),
          fragmentsOf ⟨[], false, some false⟩ (tokenize text)⟩ :=
    ofTokens_eq_ok_iff.2 ⟨nofun, numbered, rfl⟩
  have claimingOk := read claiming (by decide +kernel)
  have orphanedOk := read orphaned (by decide +kernel)
  obtain ⟨completed, ok, -, rows, fragments, -⟩ := completed_of_plain claimingOk
  obtain ⟨whole, wholeOk, -, -, -, kept, -⟩ := completed_of_plain orphanedOk
  obtain ⟨added, split⟩ := kept (by decide +kernel)
  exact ⟨⟨_, completed, claimingOk, ok, rows.trans (by decide +kernel), fragments.trans (by decide +kernel)⟩,
    _, whole, added, orphanedOk, wholeOk, split, by decide +kernel⟩

end ImportRow

end Codebook
