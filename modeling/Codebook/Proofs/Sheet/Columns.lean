import Codebook.Proofs.Report
import Codebook.Sheet.Table

/-!
# Names and numbers of columns

The name of a column is read back as its number, up to the last column that has a name (`index_name`).
The rows of a table that is loaded from a sheet have no other columns (`mem_load`).
-/

namespace Codebook

open Text

namespace Column

/-! ## Letters -/

/-- The capital letter with the given place in the alphabet. -/
def capital (place : Nat) : Char :=
  Char.ofNat ('A'.toNat + place)

theorem letterValue?_capital : ∀ place < 26, letterValue? (capital place) = some (place + 1) := by
  decide

theorem upperChar_capital : ∀ place < 26, upperChar (capital place) = [capital place] := by
  decide +kernel

theorem letters_zero : letters 0 = [] := by
  rw [letters, if_pos rfl]

theorem letters_pos {n : Nat} (positive : 0 < n) :
    letters n = letters ((n - 1) / 26) ++ [capital ((n - 1) % 26)] := by
  rw [letters, if_neg (Nat.ne_of_gt positive), capital]

/-- The letters of a number stand for it. -/
theorem lettersValue?_letters (n : Nat) : lettersValue? (letters n) = some n := by
  induction n using Nat.strongRecOn with
  | ind n ih =>
    by_cases zero : n = 0
    · rw [zero, letters_zero]
      rfl
    have positive : 0 < n := Nat.pos_of_ne_zero zero
    have before := ih ((n - 1) / 26) (by omega)
    have last := letterValue?_capital ((n - 1) % 26) (Nat.mod_lt _ (by decide))
    unfold lettersValue? at before ⊢
    rw [letters_pos positive, List.foldlM_append, before]
    show (letterValue? (capital ((n - 1) % 26))).map _ >>= _ = _
    rw [last]
    have whole : 26 * ((n - 1) / 26) + ((n - 1) % 26 + 1) = n := by omega
    exact congrArg some whole

theorem flatMap_upperChar_letters (n : Nat) : (letters n).flatMap upperChar = letters n := by
  induction n using Nat.strongRecOn with
  | ind n ih =>
    by_cases zero : n = 0
    · rw [zero, letters_zero]
      rfl
    have positive : 0 < n := Nat.pos_of_ne_zero zero
    have last := upperChar_capital ((n - 1) % 26) (Nat.mod_lt _ (by decide))
    rw [letters_pos positive, List.flatMap_append, ih _ (by omega), List.flatMap_cons, last]
    rfl

/-- The number of the last column whose name has at most the given number of letters. -/
def lastOf : Nat → Nat
  | 0 => 0
  | width + 1 => 26 * lastOf width + 26

theorem length_letters {width n : Nat} (small : n ≤ lastOf width) : (letters n).length ≤ width := by
  induction width generalizing n with
  | zero =>
    rw [Nat.le_zero.1 small, letters_zero]
    exact Nat.le_refl 0
  | succ width ih =>
    by_cases zero : n = 0
    · rw [zero, letters_zero]
      exact Nat.zero_le _
    have front : (n - 1) / 26 ≤ lastOf width := by
      rw [lastOf] at small
      omega
    rw [letters_pos (Nat.pos_of_ne_zero zero), List.length_append, List.length_singleton]
    exact Nat.succ_le_succ (ih front)

/-! ## Names -/

/-- The name of a column is read back as the number of the column. -/
theorem index_name {n : Nat} (positive : 0 < n) (small : n ≤ greatest) : index (name n) = .ok n := by
  have short : (letters n).length ≤ 3 := @length_letters 3 n small
  have same : capitals (name n) = letters n := by
    have none : (letters n).length - 3 = 0 := by omega
    simp only [capitals, name, upper, String.toList_ofList, flatMap_upperChar_letters, none,
      List.drop_zero]
  rw [index, if_neg (by rw [name, String.toList_ofList]; omega), same, lettersValue?_letters]
  show (if 0 < n then _ else _) = _
  rw [if_pos positive]

theorem inRange_whole {i : Int} : inRange (.whole i) = true ↔ 1 ≤ i ∧ i ≤ greatest := by
  rw [inRange, Number.below, Number.below, Number.toInt?, Bool.and_eq_true, Bool.not_eq_true',
    Bool.or_eq_true, decide_eq_true_eq, decide_eq_false_iff_not, beq_iff_eq, Option.some.injEq]
  omega

/-- A column has a name exactly if its number is given without a point and is one of those there are. -/
theorem exists_nameOf_iff {n : Number} :
    (∃ name, nameOf n = .ok name) ↔ ∃ i : Int, n = .whole i ∧ 1 ≤ i ∧ i ≤ greatest := by
  cases n with
  | real x =>
    refine ⟨fun ⟨name, ok⟩ => ?_, fun ⟨_, whole, _⟩ => by cases whole⟩
    rw [nameOf] at ok
    split at ok <;> cases ok
  | whole i =>
    cases range : inRange (.whole i) with
    | false =>
      refine ⟨fun ⟨name, ok⟩ => ?_, fun ⟨_, same, inside⟩ => ?_⟩
      · rw [nameOf, range] at ok
        cases ok
      · cases same
        cases range.symm.trans (inRange_whole.2 inside)
    | true =>
      exact ⟨fun _ => ⟨i, rfl, inRange_whole.1 range⟩, fun _ => ⟨_, by rw [nameOf, range]; rfl⟩⟩

end Column

/-! ## Tables -/

namespace Table

open Column

theorem below_subset (rows : List Row) (offset : Nat) : below rows offset ⊆ rows := by
  have kept := List.drop_subset (offset - 1) rows
  unfold below
  split
  · exact List.nil_subset _
  · next labels data split =>
    rw [split] at kept
    intro row member
    rcases List.mem_cons.1 member with rfl | member
    · exact kept List.mem_cons_self
    · exact kept (.tail _ (List.mem_filter.1 member).1)

/-- The rows of a loaded table are rows of its sheet, which has no more columns than have names. -/
theorem load_subset {workbook : Workbook} {sheet : String} {offset : Number} {rows : List Row}
    (ok : load workbook sheet offset = .ok rows) :
    ∃ grid : Grid, grid.width ≤ greatest ∧ rows ⊆ rowsOf grid := by
  unfold load at ok
  cases present : workbook.get? sheet with
  | none =>
    rw [present] at ok
    cases ok
  | some grid =>
    rw [present] at ok
    simp only at ok
    split at ok
    · cases ok
    next fits =>
    refine ⟨grid, Nat.le_of_not_lt fits, ?_⟩
    split at ok
    · cases ok
      exact List.Subset.refl _
    split at ok
    · cases ok
      exact List.nil_subset _
    cases offset with
    | whole n =>
      cases ok
      exact below_subset _ _
    | real x => cases ok

theorem index_of_mem_rowOf {width : Nat} (small : width ≤ greatest) {cells : List Cell}
    {cell : String × Option String} (member : cell ∈ rowOf width cells) :
    ∃ n, index cell.1 = .ok n := by
  obtain ⟨place, inside, rfl⟩ := List.mem_map.1 member
  have bounded := List.mem_range.1 inside
  exact ⟨place + 1, index_name (Nat.succ_pos place) (by omega)⟩

/-- The columns of a loaded table have numbers. -/
theorem index_of_mem_load {workbook : Workbook} {sheet : String} {offset : Number} {rows : List Row}
    (ok : load workbook sheet offset = .ok rows) {row : Row} (member : row ∈ rows)
    {cell : String × Option String} (among : cell ∈ row) : ∃ n, index cell.1 = .ok n := by
  obtain ⟨grid, small, subset⟩ := load_subset ok
  obtain ⟨cells, _, rfl⟩ := List.mem_map.1 (subset member)
  exact index_of_mem_rowOf small among

end Table

namespace Row

/-- Rows whose columns have numbers can be put in the order of the numbers. -/
theorem exists_numberedColumns {rows : List Row}
    (numbered : ∀ row ∈ rows, ∀ cell ∈ row, ∃ n, Column.index cell.1 = .ok n) :
    ∃ columns, numberedColumns rows = .ok columns := by
  have each : ∀ name ∈ columnNames rows,
      ∃ pair, (Column.index name).map (fun n => (name, n)) = .ok pair := by
    intro name member
    rw [columnNames, List.mem_eraseDups, List.mem_flatMap] at member
    obtain ⟨row, among, inside⟩ := member
    obtain ⟨cell, here, rfl⟩ := List.mem_map.1 inside
    obtain ⟨n, index⟩ := numbered row among cell here
    exact ⟨_, by rw [index]; rfl⟩
  obtain ⟨pairs, ok⟩ := Report.exists_mapM_ok each
  exact ⟨_, by rw [numberedColumns, ok]; rfl⟩

end Row

end Codebook
