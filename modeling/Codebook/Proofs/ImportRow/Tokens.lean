import Codebook.Proofs.ImportRow.Nesting

/-!
# Rows and their tokens

Where nothing is made sure of, the rows of a text are those of its headers and items, one for one and in
their order (`forall₂_isRowOf_placed`). Rows are numbered from 1, headers have no group, and an answer has
the position of the first header of its hundred as its group, wherever in the text the two stand
(`numbered_of_parse`).
-/

namespace Codebook.ImportRow

open Definition Text

/-! ## What a row has from its token -/

/-- Whether a token stands for a row: it is a header or an item. -/
def givesRow : Token → Bool
  | .headerOpen .. | .item .. => true
  | _ => false

/-- What a row has from its token; the line of the token and the place of the row do not count. -/
inductive IsRowOf (alcoholic : List String) : Token → ImportRow → Prop where
  | header {code label : String} {line : Nat} {properties : Properties} {row : ImportRow}
      (kind : row.isHeader = true) (text : row.text = label) (name : row.objectName = objectNameOf code)
      (taken : row.properties = properties) (filtered : row.noFilter = if code ∈ alcoholic then "0" else "1")
      (settings : row.settings = settingDefaults) :
      IsRowOf alcoholic (.headerOpen code label line properties) row
  | item {code label : String} {line : Nat} {properties : Properties} {row : ImportRow}
      (kind : row.isHeader = false) (text : row.text = label) (name : row.objectName = objectNameOf code)
      (taken : row.properties = properties) (filtered : row.noFilter = "0")
      (settings : row.settings =
        if readsAsOpenAnswer label then settingDefaults.putAll openAnswerSettings else settingDefaults) :
      IsRowOf alcoholic (.item code label line properties) row

section Tokens

variable {alcoholic : List String}

/-- A row stays that of its token wherever it is placed. -/
theorem IsRowOf.inPlace {token : Token} {p : ImportRow × Nat} (made : IsRowOf alcoholic token p.1)
    (rows : List ImportRow) : IsRowOf alcoholic token (inPlace rows p) := by
  cases made with
  | header kind text name taken filtered settings =>
    exact .header kind text name taken filtered settings
  | item kind text name taken filtered settings => exact .item kind text name taken filtered settings

theorem isRowOf_header (code label : String) (line : Nat) (properties : Properties) :
    IsRowOf alcoholic (.headerOpen code label line properties) (header alcoholic code label properties) := by
  refine .header rfl rfl rfl rfl ?_ rfl
  show (if alcoholic.contains code = true then "0" else "1") = _
  simp only [List.contains_iff_mem]

theorem isRowOf_item (code label : String) (line : Nat) (properties : Properties) :
    IsRowOf alcoholic (.item code label line properties) (item code label properties) := by
  refine .item (item_isHeader ..) (item_text ..) (item_objectName ..) ?_ ?_ ?_
  all_goals
    rw [item_eq]
    simp only
    split <;> rfl

theorem isSome_ofToken? (alcoholic : List String) (token : Token) :
    (ofToken? alcoholic token).isSome = givesRow token := by
  cases token <;> rfl

theorem isRowOf_of_ofToken? {token : Token} {row : ImportRow} {line : Nat}
    (made : ofToken? alcoholic token = some (row, line)) : IsRowOf alcoholic token row := by
  cases token with
  | headerOpen code label line properties =>
    rw [ofToken?, Option.some.injEq, Prod.mk.injEq] at made
    exact made.1 ▸ isRowOf_header ..
  | item code label line properties =>
    rw [ofToken?, Option.some.injEq, Prod.mk.injEq] at made
    exact made.1 ▸ isRowOf_item ..
  | _ => cases made

/-- The rows that are found are those of the headers and the items, one for one. -/
theorem forall₂_isRowOf_found (alcoholic : List String) (tokens : List Token) :
    List.Forall₂ (IsRowOf alcoholic) (tokens.filter givesRow) ((found alcoholic tokens).map Prod.fst) := by
  induction tokens with
  | nil => exact .nil
  | cons token rest ih =>
    rw [found, List.filterMap_cons, List.filter_cons, ← isSome_ofToken? alcoholic]
    cases made : ofToken? alcoholic token with
    | none => exact ih
    | some entry => exact .cons (isRowOf_of_ofToken? made) ih

theorem forall₂_isRowOf_placed (alcoholic : List String) (tokens : List Token) :
    List.Forall₂ (IsRowOf alcoholic) (tokens.filter givesRow)
      (placed ((found alcoholic tokens).map Prod.fst)) := by
  have unplaced := forall₂_isRowOf_found alcoholic tokens
  generalize (found alcoholic tokens).map Prod.fst = rows at unplaced
  rw [← List.zipIdx_map_fst 0 rows, List.forall₂_map_right_iff] at unplaced
  rw [placed_eq_map, List.forall₂_map_right_iff]
  exact unplaced.imp fun token p made => made.inPlace rows

end Tokens

/-! ## Positions -/

theorem map_position_placed (rows : List ImportRow) :
    (placed rows).map position = (List.range rows.length).map fun place : Nat => (place + 1 : Int) := by
  rw [placed_eq_map, List.map_map, List.range_eq_range', ← List.zipIdx_map_snd 0 rows, List.map_map]
  rfl

/-! ## Groups -/

/-- Whether a code is made of digits and its number, rounded down to a multiple of 100, is `hundred`. -/
def IsInHundred (code : String) (hundred : Nat) : Prop :=
  isAllDigits code = true ∧ ∃ n, readNumeral code = .ok n ∧ n / 100 * 100 = hundred

theorem isInHundred_iff_toOption {code : String} {hundred : Nat} :
    IsInHundred code hundred ↔
      isAllDigits code = true ∧ (readNumeral code).toOption.map (fun n => n / 100 * 100) = some hundred := by
  refine and_congr_right fun _ => ?_
  rw [Option.map_eq_some_iff]
  refine exists_congr fun n => and_congr_left fun _ => ?_
  cases readNumeral code <;> simp [Except.toOption]

instance (code : String) (hundred : Nat) : Decidable (IsInHundred code hundred) :=
  decidable_of_iff _ isInHundred_iff_toOption.symm

theorem isInHundred_iff {code : String} (numbered : HasNumber code) {hundred : Nat} :
    IsInHundred code hundred ↔ hundredName? code = some (objectNameOf (toString hundred)) := by
  constructor
  · rintro ⟨digits, n, read, rfl⟩
    rw [hundredName?, if_pos digits, readNumeral_eq_ok read]
  · intro named
    obtain ⟨digits, n, read, same⟩ := exists_number_of_hundredName? named numbered
    exact ⟨digits, n, read, Nat.repr_injective (objectNameOf_inj.1 same).symm⟩

/-- Whether a row is the header of a hundred. -/
def IsHeaderOf (hundred : Nat) (row : ImportRow) : Prop :=
  row.isHeader = true ∧ row.objectName = objectNameOf (toString hundred)

/-- The group of an answer with a code among rows: the position of the first header of its hundred. -/
inductive HasGroup (rows : List ImportRow) (code : String) : String → Prop where
  | unnumbered (word : isAllDigits code = false) : HasGroup rows code ""
  | headless {hundred : Nat} (within : IsInHundred code hundred)
      (none : ∀ row ∈ rows, ¬IsHeaderOf hundred row) : HasGroup rows code ""
  | headed {hundred : Nat} {before after : List ImportRow} {header : ImportRow}
      (within : IsInHundred code hundred) (split : rows = before ++ header :: after)
      (opens : IsHeaderOf hundred header) (first : ∀ row ∈ before, ¬IsHeaderOf hundred row) :
      HasGroup rows code (toString header.position)

theorem hasGroup_groupIdIn {rows : List ImportRow} {row : ImportRow} (answer : row.isHeader = false)
    (numbered : HasNumber row.code) : HasGroup rows row.code (groupIdIn rows row) := by
  rw [groupIdIn, answer, if_neg Bool.false_ne_true]
  cases named : hundredName? row.code with
  | none =>
    refine .unnumbered ?_
    rw [← Bool.not_eq_true]
    intro digits
    rw [hundredName?, if_pos digits] at named
    cases named
  | some name =>
    obtain ⟨digits, n, read, rfl⟩ := exists_number_of_hundredName? named numbered
    have within : IsInHundred row.code (n / 100 * 100) := ⟨digits, n, read, rfl⟩
    have heads (other : ImportRow) :
        (other.isHeader && other.objectName == objectNameOf (toString (n / 100 * 100))) = true ↔
          IsHeaderOf (n / 100 * 100) other := by
      rw [Bool.and_eq_true, beq_iff_eq, IsHeaderOf]
    rw [Option.bind_some, headerPosition?]
    cases found : rows.find? fun other =>
        other.isHeader && other.objectName == objectNameOf (toString (n / 100 * 100)) with
    | none =>
      rw [List.find?_eq_none] at found
      exact .headless within fun other member opens => found other member ((heads other).2 opens)
    | some header =>
      obtain ⟨opens, before, after, split, others⟩ := List.find?_eq_some_iff_append.1 found
      refine .headed within split ((heads header).1 opens) fun other member early => ?_
      have fails := others other member
      rw [(heads other).2 early] at fails
      cases fails

/-! ## Readings -/

/-- Rows are numbered from 1, headers have no group, and each answer has the group of its code. Where nothing
is made sure of, the rows stand for the headers and the items of the text, one for one. -/
theorem numbered_of_parse {reading : Reading} {text : String} {parsed : Parsed}
    (ok : (parse reading text).outcome = .ok parsed) :
    parsed.rows.map position = (List.range parsed.rows.length).map (fun place : Nat => (place + 1 : Int)) ∧
      (∀ row ∈ parsed.rows, row.isHeader = true → row.groupId = "") ∧
      (∀ row ∈ parsed.rows, row.isHeader = false → HasGroup parsed.rows row.code row.groupId) ∧
      (reading.completed.getD ((tokenize text).any isHeaderToken) = false →
        List.Forall₂ (IsRowOf reading.alcoholic) ((tokenize text).filter givesRow) parsed.rows) := by
  obtain ⟨-, numbered, rfl⟩ := ofTokens_eq_ok_iff.1 ok
  refine ⟨?_, fun row member kind => ?_, fun row member answer => ?_, fun plain => ?_⟩
  · rw [map_position_placed, length_placed]
  · rw [groupId_eq_of_mem_placed member, groupIdIn, if_pos kind]
  · obtain ⟨original, among, place, rfl⟩ := exists_of_mem_placed member
    exact hasGroup_groupIdIn answer (numbered original among answer)
  · have found : unplaced reading (tokenize text) = (found reading.alcoholic (tokenize text)).map Prod.fst := by
      rw [unplaced, if_neg (by rw [Reading.completes, plain]; exact Bool.false_ne_true)]
    simp only [found]
    exact forall₂_isRowOf_placed reading.alcoholic (tokenize text)

/-- A text in which answers stand before the header of their hundred and under other headers. -/
def scattered : String :=
  "_801 \"Stout\", _800 \"Beer\" \x7b _x \"Word\", _1101 \"Cider\" \x7d, _900 \"Wine\" \x7b _850 \"Ale\" \x7d, "
    ++ "_800 \"Beer again\" \x7b _802 \"Porter\" \x7d"

/-- Answers have the first header with the name of their hundred, and none without such a header. -/
theorem numbered_of_parse_scattered :
    ∃ parsed, (parse ⟨["800"], false, some false⟩ scattered).outcome = .ok parsed ∧
      parsed.rows.map (fun row => (row.objectName, row.noFilter, row.position, row.groupId)) =
        [("_801", "0", 1, "2"), ("_800", "0", 2, ""), ("_x", "0", 3, ""), ("_1101", "0", 4, ""),
          ("_900", "1", 5, ""), ("_850", "0", 6, "2"), ("_800", "0", 7, ""), ("_802", "0", 8, "2")] ∧
      (∀ row ∈ parsed.rows, row.isHeader = false → HasGroup parsed.rows row.code row.groupId) ∧
      List.Forall₂ (IsRowOf ["800"]) ((tokenize scattered).filter givesRow) parsed.rows := by
  have ok : (parse ⟨["800"], false, some false⟩ scattered).outcome =
      .ok ⟨placed (unplaced ⟨["800"], false, some false⟩ (tokenize scattered)),
        fragmentsOf ⟨["800"], false, some false⟩ (tokenize scattered)⟩ :=
    ofTokens_eq_ok_iff.2 ⟨nofun, by decide +kernel, rfl⟩
  obtain ⟨-, -, groups, tokens⟩ := numbered_of_parse ok
  exact ⟨_, ok, by decide +kernel, groups, tokens rfl⟩

end Codebook.ImportRow
