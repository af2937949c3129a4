import Codebook.Proofs.Sheet.Columns

/-!
# Loading tables

A sheet that is in the workbook makes a table unless it has more columns than have a name, or the labels
would stand at a number with a point among its rows (`load_fails_iff`). A text is found at each reference
that has the form of one (`textAt_fails_iff`). None of these failures is told to the user of a run.
-/

namespace Codebook.Table

open Text

/-! ## Tables of sheets -/

/-- Whether a number with a point is that of a row: its rows are above the last and below the first. -/
def SplitsRow (offset : Number) (height : Nat) : Prop :=
  (∃ x, offset = .real x) ∧ offset.below 0 = false ∧ offset.toInt? ≠ some 0 ∧
    offset.below (height + 1) = true

/-- Whether a sheet makes no table whose labels stand in the row with the given number. -/
def Unloadable (grid : Grid) (offset : Number) : Prop :=
  Column.greatest < grid.width ∨ SplitsRow offset grid.length

section Load

variable {workbook : Workbook} {sheet : String} {grid : Grid} {offset : Number} {failure : Failure}

/-- A sheet that is in the workbook fails to make a table only for what is wrong with it. -/
theorem load_eq_error_iff (present : workbook.get? sheet = some grid) :
    load workbook sheet offset = .error failure ↔
      (Column.greatest < grid.width ∧ failure = .column (.badIndex (.whole (Column.greatest + 1)))) ∨
        grid.width ≤ Column.greatest ∧ SplitsRow offset grid.length ∧ failure = .fractionalOffset := by
  have height : (rowsOf grid).length = grid.length := List.length_map _
  unfold load
  rw [present]
  simp only
  by_cases wide : Column.greatest < grid.width
  · rw [if_pos wide]
    simp [bind, Except.bind, wide, Nat.not_le_of_lt wide, eq_comm]
  rw [if_neg wide]
  have narrow : grid.width ≤ Column.greatest := Nat.le_of_not_lt wide
  simp only [wide, narrow, false_and, true_and, false_or]
  show (if (offset.below 0 || offset.toInt? == some 0) = true then _ else _) = _ ↔ _
  by_cases all : (offset.below 0 || offset.toInt? == some 0) = true
  · rw [if_pos all]
    refine ⟨nofun, fun ⟨⟨_, notBelow, notZero, _⟩, _⟩ => ?_⟩
    rw [notBelow, Bool.false_or, beq_iff_eq] at all
    exact absurd all notZero
  rw [if_neg all]
  rw [Bool.or_eq_true, beq_iff_eq, not_or, Bool.not_eq_true] at all
  rw [height]
  show (if (!offset.below (grid.length + 1)) = true then _ else _) = _ ↔ _
  cases inside : offset.below (grid.length + 1) with
  | false =>
    rw [if_pos (by decide)]
    exact ⟨nofun, fun ⟨⟨_, _, _, within⟩, _⟩ => by cases inside.symm.trans within⟩
  | true =>
    rw [if_neg (by decide)]
    cases offset with
    | whole n => exact ⟨nofun, fun ⟨⟨⟨_, real⟩, _⟩, _⟩ => by cases real⟩
    | real x =>
      have splits : SplitsRow (.real x) grid.length := ⟨⟨x, rfl⟩, all.1, all.2, inside⟩
      exact ⟨fun failed => ⟨splits, (Except.error.inj failed).symm⟩, fun both => congrArg _ both.2.symm⟩

theorem load_fails_iff (present : workbook.get? sheet = some grid) :
    (∃ failure, load workbook sheet offset = .error failure) ↔ Unloadable grid offset := by
  constructor
  · rintro ⟨failure, failed⟩
    exact ((load_eq_error_iff present).1 failed).imp And.left fun split => split.2.1
  · intro unloadable
    by_cases wide : Column.greatest < grid.width
    · exact ⟨_, (load_eq_error_iff present).2 (.inl ⟨wide, rfl⟩)⟩
    · have splits := unloadable.resolve_left wide
      exact ⟨_, (load_eq_error_iff present).2 (.inr ⟨Nat.le_of_not_lt wide, splits, rfl⟩)⟩

/-- Why a sheet makes no table is not told, but that it is not there. -/
theorem issueKind?_of_load (present : workbook.get? sheet = some grid)
    (failed : load workbook sheet offset = .error failure) : failure.issueKind? = none := by
  rcases (load_eq_error_iff present).1 failed with ⟨_, rfl⟩ | ⟨_, _, rfl⟩ <;> rfl

/-- Without an offset a sheet makes a table of all its rows. -/
theorem load_all (present : workbook.get? sheet = some grid) (narrow : grid.width ≤ Column.greatest) :
    load workbook sheet (.whole 0) = .ok (rowsOf grid) := by
  unfold load
  rw [present]
  simp only
  rw [if_neg (Nat.not_lt_of_le narrow)]
  rfl

end Load

/-! ## Texts at references -/

/-- Whether a text has the form of a reference: letters, and digits that can be read. -/
def IsReference (reference : String) : Prop :=
  ∃ letters digits n, splitReference? reference = some (letters, digits) ∧ readNumeral digits = .ok n

section TextAt

variable {reference : String}

theorem textAt_of_none (none : splitReference? reference = none) (rows : List Row) :
    textAt rows reference = .error (.cellReference reference) := by
  rw [textAt, none]

theorem textAt_of_unread {letters digits : String} {e : NumeralError}
    (split : splitReference? reference = some (letters, digits)) (unread : readNumeral digits = .error e)
    (rows : List Row) : textAt rows reference = .error (.numeral e) := by
  rw [textAt, split]
  simp only
  rw [unread]
  rfl

theorem exists_textAt (isReference : IsReference reference) (rows : List Row) :
    ∃ text, textAt rows reference = .ok text := by
  obtain ⟨letters, digits, n, split, read⟩ := isReference
  rw [textAt, split]
  simp only
  rw [read]
  show ∃ text, (if n = 0 then _ else _) = _
  split <;> exact ⟨_, rfl⟩

/-- What has not the form of a reference is so for its parts or for its digits. -/
theorem not_isReference (noReference : ¬IsReference reference) :
    splitReference? reference = none ∨
      ∃ letters digits e, splitReference? reference = some (letters, digits) ∧
        readNumeral digits = .error e := by
  cases split : splitReference? reference with
  | none => exact .inl rfl
  | some both =>
    rcases both with ⟨letters, digits⟩
    cases read : readNumeral digits with
    | error e => exact .inr ⟨letters, digits, e, rfl, read⟩
    | ok n => exact absurd ⟨letters, digits, n, split, read⟩ noReference

theorem textAt_fails_iff (rows : List Row) :
    (∃ failure, textAt rows reference = .error failure) ↔ ¬IsReference reference := by
  constructor
  · rintro ⟨failure, failed⟩ isReference
    obtain ⟨text, found⟩ := exists_textAt isReference rows
    cases failed.symm.trans found
  · intro noReference
    rcases not_isReference noReference with none | ⟨_, _, _, split, unread⟩
    · exact ⟨_, textAt_of_none none rows⟩
    · exact ⟨_, textAt_of_unread split unread rows⟩

theorem issueKind?_of_textAt {rows : List Row} {failure : Failure}
    (failed : textAt rows reference = .error failure) : failure.issueKind? = none := by
  rcases not_isReference ((textAt_fails_iff rows).1 ⟨failure, failed⟩) with none | ⟨_, _, _, split, unread⟩
  · cases failed.symm.trans (textAt_of_none none rows)
    rfl
  · cases failed.symm.trans (textAt_of_unread split unread rows)
    rfl

end TextAt

end Codebook.Table
