import Codebook.ImportRow.Parsing
import Codebook.Proofs.Report
import Mathlib.Data.List.Pairwise

/-!
# Positions and groups

Placing rows fails only where the code of an answer is made of digits and is no number. Otherwise row
`n` of the list has position `n`, and the group of an answer is the position of the first header of its
hundred (`place_eq_ok_iff`); all else stays as it was.
-/

namespace Codebook.ImportRow

open Codebook.Text

/-! ## Numbers of codes -/

/-- Whether a code that is made of digits can be read as a number. -/
def HasNumber (code : String) : Prop :=
  isAllDigits code = true → ∃ n, readNumeral code = .ok n

instance : DecidablePred HasNumber := fun code =>
  have : Decidable (∃ n, readNumeral code = .ok n) :=
    match readNumeral code with
    | .ok n => isTrue ⟨n, rfl⟩
    | .error _ => isFalse nofun
  inferInstanceAs (Decidable (isAllDigits code = true → ∃ n, readNumeral code = .ok n))

theorem readNumeral_eq_ok {text : String} {n : Nat} (read : readNumeral text = .ok n) :
    n = decimalNumber text.toList := by
  unfold readNumeral at read
  simp only at read
  split at read
  · cases read
  split at read
  · cases read
  · next whole =>
    have long : text.toList.length ≤ (text.toList.takeWhile isDecimal).length := by
      simp only [Bool.or_eq_true, decide_eq_true_eq, not_or, Nat.not_lt] at whole
      exact whole.1
    cases read
    rw [(List.takeWhile_prefix isDecimal).eq_of_length_le long]

/-- What is made of the number of a code is made exactly where the code has a number if need be. -/
theorem ofNumber_eq_ok_iff {α : Type} {code : String} {f : Nat → α} {other a : α} :
    (if isAllDigits code then (readNumeral code).map f else .ok other) = .ok a ↔
      HasNumber code ∧ a = if isAllDigits code then f (decimalNumber code.toList) else other := by
  by_cases digits : isAllDigits code = true
  · rw [if_pos digits, if_pos digits]
    cases read : readNumeral code with
    | error e =>
      have unread : ¬HasNumber code := fun numbered => by
        obtain ⟨n, ok⟩ := numbered digits
        cases read.symm.trans ok
      exact ⟨nofun, fun both => absurd both.1 unread⟩
    | ok n =>
      obtain rfl := readNumeral_eq_ok read
      exact ⟨fun same => ⟨fun _ => ⟨_, read⟩, (Except.ok.inj same).symm⟩,
        fun both => congrArg Except.ok both.2.symm⟩
  · rw [if_neg digits, if_neg digits]
    exact ⟨fun same => ⟨fun made => absurd made digits, (Except.ok.inj same).symm⟩,
      fun both => congrArg Except.ok both.2.symm⟩

/-- The object name of the header of the hundred of a code that is made of digits. -/
def hundredName? (code : String) : Option String :=
  if isAllDigits code then some (objectNameOf (toString (decimalNumber code.toList / 100 * 100)))
  else none

theorem headerNameOf_eq_ok_iff {code : String} {name : Option String} :
    headerNameOf code = .ok name ↔ HasNumber code ∧ name = hundredName? code :=
  ofNumber_eq_ok_iff

theorem exists_number_of_hundredName? {code name : String} (hundred : hundredName? code = some name)
    (numbered : HasNumber code) : isAllDigits code = true ∧
      ∃ n, readNumeral code = .ok n ∧ name = objectNameOf (toString (n / 100 * 100)) := by
  unfold hundredName? at hundred
  split at hundred
  · next digits =>
    obtain ⟨n, read⟩ := numbered digits
    cases hundred
    exact ⟨digits, n, read, by rw [readNumeral_eq_ok read]⟩
  · cases hundred

/-! ## Placed rows -/

/-- The group that a row has among numbered rows. -/
def groupIdIn (rows : List ImportRow) (row : ImportRow) : String :=
  if row.isHeader then ""
  else (((hundredName? row.code).bind (headerPosition? rows)).map toString).getD ""

/-- Rows with their positions and groups. -/
def placed (rows : List ImportRow) : List ImportRow :=
  (number rows).map fun row => { row with groupId := groupIdIn (number rows) row }

theorem withGroup_eq_ok_iff {rows : List ImportRow} {row result : ImportRow} :
    withGroup rows row = .ok result ↔
      (row.isHeader = false → HasNumber row.code) ∧
        result = { row with groupId := groupIdIn rows row } := by
  unfold withGroup groupIdIn
  cases kind : row.isHeader with
  | true => simp [eq_comm]
  | false =>
    simp only [Bool.false_eq_true, if_false]
    cases name : headerNameOf row.code with
    | error e =>
      have unread : ¬HasNumber row.code := fun numbered => by
        cases name.symm.trans (headerNameOf_eq_ok_iff.2 ⟨numbered, rfl⟩)
      simp [bind, Except.bind, unread]
    | ok found =>
      obtain ⟨numbered, rfl⟩ := headerNameOf_eq_ok_iff.1 name
      simp [bind, Except.bind, pure, Except.pure, numbered, eq_comm]

/-- A row of a numbered list is one of the list, but for its position. -/
theorem exists_of_mem_number {rows : List ImportRow} {row : ImportRow} (member : row ∈ number rows) :
    ∃ original ∈ rows, ∃ place : Nat, row = { original with position := (place + 1 : Nat) } := by
  rw [number, List.mem_map] at member
  obtain ⟨⟨original, place⟩, among, rfl⟩ := member
  exact ⟨original, List.fst_mem_of_mem_zipIdx among, place, rfl⟩

theorem exists_mem_number {rows : List ImportRow} {row : ImportRow} (member : row ∈ rows) :
    ∃ place : Nat, { row with position := (place + 1 : Nat) } ∈ number rows := by
  obtain ⟨place, inside, rfl⟩ := List.mem_iff_getElem.1 member
  exact ⟨place, List.mem_map.2 ⟨(rows[place], place), List.mk_mem_zipIdx_iff_getElem?.2
    (List.getElem?_eq_getElem inside), rfl⟩⟩

/-- Rows are placed exactly if each answer among them has a code that can be read. -/
theorem place_eq_ok_iff {rows result : List ImportRow} :
    place rows = .ok result ↔
      (∀ row ∈ rows, row.isHeader = false → HasNumber row.code) ∧ result = placed rows := by
  have placing : place rows = .ok result ↔
      (∀ row ∈ number rows, row.isHeader = false → HasNumber row.code) ∧ result = placed rows :=
    Report.mapM_eq_ok_iff fun _ _ => withGroup_eq_ok_iff
  refine placing.trans (and_congr_left fun _ => ⟨?_, ?_⟩)
  · intro numbered row member
    obtain ⟨place, among⟩ := exists_mem_number member
    have here := numbered _ among
    exact here
  · intro numbered row member
    obtain ⟨original, among, place, rfl⟩ := exists_of_mem_number member
    exact numbered original among

/-! ## What placing leaves as it is -/

/-- A row without its position and its group. -/
def withoutPlace (row : ImportRow) : ImportRow :=
  { row with position := 0, groupId := "" }

/-- What does not depend on the places of rows is the same before and after they are placed. -/
theorem map_placed {α : Type} {f : ImportRow → α} (still : ∀ row, f (withoutPlace row) = f row)
    (rows : List ImportRow) : (placed rows).map f = rows.map f := by
  conv_rhs => rw [← List.zipIdx_map_fst 0 rows, List.map_map]
  rw [placed, number, List.map_map, List.map_map]
  refine List.map_congr_left fun p _ => ?_
  rw [Function.comp_apply, Function.comp_apply, Function.comp_apply, ← still, ← still p.1]
  rfl

section Counted

variable {p : ImportRow → Bool} (still : ∀ row, p (withoutPlace row) = p row) (rows : List ImportRow)
include still

theorem any_placed : (placed rows).any p = rows.any p := by
  have asMap (items : List ImportRow) : items.any p = (items.map p).any id := by
    rw [List.any_map]
    rfl
  rw [asMap, map_placed still, ← asMap]

theorem countP_placed : (placed rows).countP p = rows.countP p := by
  have asMap (items : List ImportRow) : items.countP p = (items.map p).countP id := by
    rw [List.countP_map]
    rfl
  rw [asMap, map_placed still, ← asMap]

theorem map_filter_placed :
    ((placed rows).filter p).map withoutPlace = (rows.filter p).map withoutPlace := by
  have same : p ∘ withoutPlace = p := funext still
  have moved (items : List ImportRow) :
      (items.filter p).map withoutPlace = (items.map withoutPlace).filter p := by
    rw [List.filter_map, same]
  rw [moved, map_placed fun _ => rfl, ← moved]

end Counted

theorem length_placed (rows : List ImportRow) : (placed rows).length = rows.length := by
  rw [← List.length_map withoutPlace, map_placed fun _ => rfl, List.length_map]

/-! ## Headers of placed rows -/

theorem headerPosition?_map {f : ImportRow → ImportRow} (header : ∀ row, (f row).isHeader = row.isHeader)
    (name : ∀ row, (f row).objectName = row.objectName)
    (position : ∀ row, (f row).position = row.position) (rows : List ImportRow) :
    headerPosition? (rows.map f) = headerPosition? rows := by
  funext wanted
  have pointwise : (fun row => row.isHeader && row.objectName == wanted) ∘ f =
      fun row => row.isHeader && row.objectName == wanted := by
    funext row
    simp only [Function.comp_apply, header, name]
  rw [headerPosition?, headerPosition?, List.find?_map, pointwise, Option.map_map]
  exact congrArg (Option.map · _) (funext position)

/-- The groups of placed rows can be read off the placed rows. -/
theorem groupIdIn_placed (rows : List ImportRow) : groupIdIn (placed rows) = groupIdIn (number rows) := by
  have headers : headerPosition? (placed rows) = headerPosition? (number rows) :=
    @headerPosition?_map (fun row => { row with groupId := groupIdIn (number rows) row })
      (fun _ => rfl) (fun _ => rfl) (fun _ => rfl) (number rows)
  funext row
  rw [groupIdIn, groupIdIn, headers]

theorem exists_of_mem_placed {rows : List ImportRow} {row : ImportRow} (member : row ∈ placed rows) :
    ∃ original ∈ rows, ∃ place : Nat, row = { original with
      position := (place + 1 : Nat)
      groupId := groupIdIn (placed rows) original } := by
  obtain ⟨numbered, among, rfl⟩ := List.mem_map.1 member
  obtain ⟨original, inside, place, rfl⟩ := exists_of_mem_number among
  exact ⟨original, inside, place, by rw [groupIdIn_placed]; rfl⟩

theorem exists_mem_placed {rows : List ImportRow} {row : ImportRow} (member : row ∈ rows) :
    ∃ place : Nat, { row with
      position := (place + 1 : Nat)
      groupId := groupIdIn (placed rows) row } ∈ placed rows := by
  obtain ⟨place, numbered⟩ := exists_mem_number member
  refine ⟨place, List.mem_map.2 ⟨_, numbered, ?_⟩⟩
  rw [groupIdIn_placed]
  rfl

/-- Each placed row has the group that its code has among the placed rows. -/
theorem groupId_eq_of_mem_placed {rows : List ImportRow} {row : ImportRow} (member : row ∈ placed rows) :
    row.groupId = groupIdIn (placed rows) row := by
  obtain ⟨original, _, place, rfl⟩ := exists_of_mem_placed member
  rfl

theorem isHeader_of_groupIdIn {rows : List ImportRow} {row : ImportRow}
    (grouped : groupIdIn rows row ≠ "") : row.isHeader = false := by
  cases kind : row.isHeader with
  | false => rfl
  | true => exact absurd (by rw [groupIdIn, if_pos kind]) grouped

/-- A row with a group belongs to the first header of the hundred of its code. -/
theorem exists_header_of_groupIdIn {rows : List ImportRow} {row : ImportRow}
    (grouped : groupIdIn rows row ≠ "") : ∃ name header, hundredName? row.code = some name ∧
      rows.find? (fun other => other.isHeader && other.objectName == name) = some header ∧
        groupIdIn rows row = toString header.position := by
  unfold groupIdIn at grouped ⊢
  split
  · next kind =>
    rw [if_pos kind] at grouped
    exact absurd rfl grouped
  next kind =>
  rw [if_neg kind] at grouped
  cases hundred : hundredName? row.code with
  | none =>
    rw [hundred] at grouped
    exact absurd rfl grouped
  | some name =>
    rw [hundred, Option.bind_some, headerPosition?] at grouped
    cases first : rows.find? fun other => other.isHeader && other.objectName == name with
    | none =>
      rw [first] at grouped
      exact absurd rfl grouped
    | some header => exact ⟨name, header, rfl, first, by rw [Option.bind_some, headerPosition?, first]; rfl⟩

/-! ## Rows without headers -/

theorem headerPosition?_eq_none {rows : List ImportRow} (answers : ∀ row ∈ rows, row.isHeader = false)
    (name : String) : headerPosition? rows name = none := by
  rw [headerPosition?, Option.map_eq_none_iff, List.find?_eq_none]
  intro row member
  rw [answers row member, Bool.false_and]
  exact Bool.false_ne_true

theorem groupIdIn_eq_empty {rows : List ImportRow} (answers : ∀ row ∈ rows, row.isHeader = false)
    (row : ImportRow) : groupIdIn rows row = "" := by
  have none : headerPosition? rows = fun _ => none := funext (headerPosition?_eq_none answers)
  rw [groupIdIn, none]
  cases row.isHeader <;> cases hundredName? row.code <;> rfl

/-- Where there is no header, placing rows only numbers them. -/
theorem placed_of_answers {rows : List ImportRow} (answers : ∀ row ∈ rows, row.isHeader = false) :
    placed rows = (number rows).map fun row => { row with groupId := "" } := by
  have numbered : ∀ row ∈ number rows, row.isHeader = false := by
    intro row member
    obtain ⟨original, among, place, rfl⟩ := exists_of_mem_number member
    exact answers original among
  rw [placed]
  refine List.map_congr_left fun row _ => ?_
  rw [groupIdIn_eq_empty numbered]

/-! ## The order of positions -/

theorem pairwise_position_placed (rows : List ImportRow) :
    (placed rows).Pairwise fun a b => a.position < b.position := by
  have counted : rows.zipIdx.Pairwise fun a b => a.2 < b.2 := by
    rw [← List.pairwise_map, List.zipIdx_map_snd]
    exact List.pairwise_lt_range'
  rw [placed, number, List.map_map, List.pairwise_map]
  exact counted.imp fun less => Int.ofNat_lt.2 (Nat.succ_lt_succ less)

section Sorted

variable {rows : List ImportRow} (sorted : rows.Pairwise fun a b => a.position < b.position)
include sorted

theorem position_le_of_find? {p : ImportRow → Bool} {first row : ImportRow}
    (found : rows.find? p = some first) (member : row ∈ rows) (holds : p row = true) :
    first.position ≤ row.position := by
  obtain ⟨_, before, after, rfl, others⟩ := List.find?_eq_some_iff_append.1 found
  rcases List.mem_append.1 member with earlier | later
  · have fails := others row earlier
    rw [holds] at fails
    cases fails
  · rcases List.mem_cons.1 later with rfl | later
    · exact Int.le_refl _
    · have ahead := (List.pairwise_append.1 sorted).2.1
      exact Int.le_of_lt ((List.pairwise_cons.1 ahead).1 row later)

theorem eq_of_position_eq {a b : ImportRow} (left : a ∈ rows) (right : b ∈ rows)
    (same : a.position = b.position) : a = b := by
  by_contra different
  have symmetric : Std.Symm fun a b : ImportRow => a.position ≠ b.position := ⟨fun _ _ => Ne.symm⟩
  have apart : rows.Pairwise fun a b => a.position ≠ b.position := sorted.imp Int.ne_of_lt
  exact apart.forall left right different same

end Sorted

theorem number_concat (rows : List ImportRow) (row : ImportRow) :
    number (rows ++ [row]) = number rows ++ [{ row with position := (rows.length + 1 : Nat) }] := by
  rw [number, List.zipIdx_append, List.map_append, Nat.zero_add]
  rfl

/-- The last of placed rows is the last row, placed. -/
theorem placed_concat (rows : List ImportRow) (row : ImportRow) :
    placed (rows ++ [row]) =
      (number rows).map (fun other =>
        { other with groupId := groupIdIn (placed (rows ++ [row])) other })
      ++ [{ row with
        position := (rows.length + 1 : Nat)
        groupId := groupIdIn (placed (rows ++ [row])) row }] := by
  rw [groupIdIn_placed]
  unfold placed
  rw [number_concat, List.map_append]
  rfl

end Codebook.ImportRow
