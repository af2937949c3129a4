import Codebook.Proofs.Sheet.Loading
import Codebook.Proofs.Sheet.Texts

/-!
# What a sheet holds

A table is loaded from the rows of a sheet from the labels on, and shows the texts of the labels and of each
row below that has one (`loads_load`). Cells and rows that are left out at the end of a sheet have no texts
(`trimRow_texts`, `records_trimmed`).
-/

namespace Codebook

/-! ## Whole numbers -/

namespace Number

theorem Binary64.quotient_pos (significand : Nat) (exponent : Int) :
    0 < (Binary64.quotient significand exponent).2 := by
  cases exponent with
  | ofNat n => exact Nat.one_pos
  | negSucc n => exact Nat.two_pow_pos _

/-- A whole number lies below those that are greater, with a point or without. -/
theorem below_iff {x : Number} {n : Int} (whole : x.toInt? = some n) (bound : Int) :
    x.below bound = true ↔ n < bound := by
  cases x with
  | whole m =>
    cases whole
    exact decide_eq_true_iff
  | real x =>
    cases x with
    | infinite | notANumber => cases whole
    | finite negative significand exponent =>
      have positive := Binary64.quotient_pos significand exponent
      rw [toInt?, Binary64.toInt?] at whole
      rw [below, Binary64.below]
      rcases parts : Binary64.quotient significand exponent with ⟨numerator, denominator⟩
      rw [parts] at whole positive
      dsimp only at whole positive ⊢
      split at whole
      · next divides =>
        obtain ⟨size, rfl⟩ := Nat.dvd_of_mod_eq_zero (beq_iff_eq.1 divides)
        rw [Nat.mul_div_cancel_left size positive] at whole
        cases whole
        have scaled : (if negative = true then -((denominator * size : Nat) : Int)
            else (denominator * size : Nat)) * (1 : Nat) =
            (if negative = true then -(size : Int) else size) * denominator := by
          rw [Int.natCast_mul, Int.mul_comm denominator]
          cases negative with
          | true => rw [if_pos rfl, if_pos rfl, Int.natCast_one, Int.mul_one, Int.neg_mul]
          | false => rw [if_neg Bool.false_ne_true, if_neg Bool.false_ne_true, Int.natCast_one, Int.mul_one]
        rw [scaled, decide_eq_true_iff]
        exact Int.mul_lt_mul_right (Int.natCast_pos.2 positive)
      · cases whole

end Number

/-! ## Texts of cells -/

namespace Grid

theorem width_le_iff {grid : Grid} {bound : Nat} :
    grid.width ≤ bound ↔ ∀ cells ∈ grid, cells.length ≤ bound := by
  have greatest (lengths : List Nat) (start : Nat) :
      lengths.foldl max start ≤ bound ↔ start ≤ bound ∧ ∀ n ∈ lengths, n ≤ bound := by
    induction lengths generalizing start with
    | nil => simp
    | cons n rest ih => rw [List.foldl_cons, ih, Nat.max_le, List.forall_mem_cons, and_assoc]
  rw [width, greatest, List.forall_mem_map]
  exact and_iff_right (Nat.zero_le _)

/-- The texts that a table takes from cells. -/
def textsIn (cells : List Cell) : Texts := fun place => (cells[place]?).bind Cell.tableText?

/-- Whether a table takes a text from one of the cells. -/
def hasText (cells : List Cell) : Bool :=
  cells.any fun cell => cell.tableText?.isSome

/-- The texts of the rows that have one. -/
def records (rows : Grid) : List Texts :=
  (rows.filter hasText).map textsIn

/-- What a sheet holds whose first row is that of the labels: their texts, and those of each other row that
has one; nothing if it has no rows. -/
def content : Grid → Option (Texts × List Texts)
  | [] => none
  | labels :: data => some (textsIn labels, records data)

theorem within_textsIn {cells : List Cell} {width : Nat} (narrow : cells.length ≤ width) :
    (textsIn cells).Within width := by
  intro place behind
  rw [textsIn, List.getElem?_eq_none (Nat.le_trans narrow behind)]
  rfl

theorem isAllBlank_of_textsIn {cells : List Cell} {place : Nat} {text : String}
    (there : textsIn cells place = some text) : Text.isAllBlank text = false := by
  obtain ⟨cell, -, shown⟩ := Option.bind_eq_some_iff.1 there
  have kept := (Option.filter_eq_some_iff.1 shown).2
  rwa [Bool.not_eq_true'] at kept

theorem isBlank_rowOf {cells : List Cell} {width : Nat} (narrow : cells.length ≤ width) :
    (Table.rowOf width cells).isBlank = !hasText cells := by
  rw [Bool.eq_iff_iff, Bool.not_eq_true', ← Bool.not_eq_true, hasText, List.any_eq_true, Row.isBlank,
    List.all_eq_true]
  constructor
  · rintro none ⟨cell, member, text⟩
    obtain ⟨place, inside, rfl⟩ := List.mem_iff_getElem.1 member
    have here := none _ (List.mem_map_of_mem (List.mem_range.2 (Nat.lt_of_lt_of_le inside narrow)))
    rw [List.getElem?_eq_getElem inside, Option.isNone_iff_eq_none] at here
    have absent : cells[place].tableText? = Option.none := here
    rw [absent] at text
    cases text
  · intro none column member
    obtain ⟨place, -, rfl⟩ := List.mem_map.1 member
    cases there : cells[place]? with
    | none => rfl
    | some cell =>
      show (cell.tableText?).isNone = true
      rw [← Option.not_isSome, Bool.not_eq_true', ← Bool.not_eq_true]
      exact fun text => none ⟨cell, List.mem_of_getElem? there, text⟩

/-! ## Trimming -/

theorem textsIn_concat {c : Cell} (none : c.tableText? = none) (cells : List Cell) :
    textsIn (cells ++ [c]) = textsIn cells := by
  funext place
  rw [textsIn, textsIn, List.getElem?_append]
  split
  · rfl
  · next behind =>
    rw [List.getElem?_eq_none (Nat.le_of_not_lt behind)]
    cases place - cells.length with
    | zero => exact none
    | succ more => rfl

theorem tableText?_of_isEmpty {c : Cell} (empty : c.isEmpty = true) : c.tableText? = none := by
  cases c with
  | empty => rfl
  | text value =>
    obtain rfl := String.isEmpty_iff.1 empty
    rfl
  | number | flag | fault => cases empty

theorem trimRow_concat (cells : List Cell) (c : Cell) :
    trimRow (cells ++ [c]) = if c.isEmpty then trimRow cells else cells ++ [c] := by
  rw [trimRow, List.reverse_append, List.reverse_singleton, List.singleton_append, List.dropWhile_cons]
  split
  · rfl
  · rw [List.reverse_cons, List.reverse_reverse]

/-- The cells that are left out at the end of a row have no texts. -/
theorem trimRow_texts (cells : List Cell) :
    textsIn (trimRow cells) = textsIn cells ∧ hasText (trimRow cells) = hasText cells := by
  induction cells using List.reverseRecOn with
  | nil => exact ⟨rfl, rfl⟩
  | append_singleton cells c ih =>
    rw [trimRow_concat]
    split
    · next empty =>
      have none := tableText?_of_isEmpty empty
      have last : hasText (cells ++ [c]) = hasText cells := by
        rw [hasText, List.any_append, List.any_cons, none]
        exact Bool.or_false _
      rw [textsIn_concat none, last]
      exact ih
    · exact ⟨rfl, rfl⟩

theorem trimmed_cons (row : List Cell) (rows : Grid) :
    trimmed (row :: rows) =
      if trimmed rows = [] ∧ trimRow row = [] then [] else trimRow row :: trimmed rows := by
  rw [trimmed, List.map_cons, List.reverse_cons, List.dropWhile_append, trimmed]
  simp only [List.reverse_eq_nil_iff, List.isEmpty_iff]
  by_cases empty : (rows.map trimRow).reverse.dropWhile List.isEmpty = []
  · rw [if_pos empty, empty, List.dropWhile_cons]
    by_cases bare : trimRow row = []
    · rw [if_pos (List.isEmpty_iff.2 bare), if_pos ⟨rfl, bare⟩]
      rfl
    · rw [if_neg (mt List.isEmpty_iff.1 bare), if_neg fun both => bare both.2]
      rfl
  · rw [if_neg empty, if_neg fun both => empty both.1, List.reverse_append]
    rfl

theorem drop_trimmed (count : Nat) (rows : Grid) :
    (trimmed rows).drop count = trimmed (rows.drop count) := by
  induction rows generalizing count with
  | nil => rw [List.drop_nil]; exact List.drop_nil
  | cons row rows ih =>
    cases count with
    | zero => rfl
    | succ count =>
      rw [trimmed_cons, List.drop_succ_cons, ← ih]
      split
      · next both => rw [both.1, List.drop_nil, List.drop_nil]
      · rfl

theorem trimmed_eq_nil_iff {rows : Grid} : trimmed rows = [] ↔ ∀ row ∈ rows, trimRow row = [] := by
  induction rows with
  | nil => exact iff_of_true rfl (List.forall_mem_nil _)
  | cons row rows ih =>
    rw [trimmed_cons, List.forall_mem_cons, ← ih]
    split
    · next both => exact iff_of_true rfl ⟨both.2, both.1⟩
    · next other => exact iff_of_false (List.cons_ne_nil _ _) fun both => other ⟨both.2, both.1⟩

theorem hasText_of_trimRow {row : List Cell} (empty : trimRow row = []) : hasText row = false := by
  rw [← (trimRow_texts row).2, empty]
  rfl

/-- The rows that are left out at the end of a sheet have no texts. -/
theorem records_trimmed (rows : Grid) : records (trimmed rows) = records rows := by
  induction rows with
  | nil => rfl
  | cons row rows ih =>
    rw [trimmed_cons, records, records, List.filter_cons]
    split
    · next both =>
      rw [hasText_of_trimRow both.2, if_neg Bool.false_ne_true]
      rw [both.1] at ih
      exact ih
    · obtain ⟨texts, has⟩ := trimRow_texts row
      rw [List.filter_cons, has]
      split
      · rw [List.map_cons, List.map_cons, texts]
        exact congrArg _ ih
      · exact ih

end Grid

/-! ## Tables that show texts -/

namespace Table

open Grid

/-- Whether a table shows the given labels and the texts of the given other rows, besides blank ones. -/
structure Shows (labels : Texts) (records : List Texts) (width : Nat) (table : List Row) : Prop where
  narrow : width ≤ Column.greatest
  split : ∃ rest, table = Row.ofTexts width labels :: rest ∧
    rest.filter (fun row => !row.isBlank) = records.map (Row.ofTexts width)
  within : ∀ texts ∈ labels :: records, texts.Within width
  told : ∀ texts ∈ records, ∀ place text, texts place = some text → Text.isAllBlank text = false

/-- Whether a number is given with a point although it counts rows. -/
def IsSplit (offset : Number) : Prop :=
  (∃ x, offset = .real x) ∧ offset.below 1 = false

/-- What loading a table comes to, by what the sheet holds from the labels on. -/
inductive Loads (offset : Number) : Option (Texts × List Texts) → Except Failure (List Row) → Prop
  | nothing : Loads offset none (.ok [])
  | refused (labels : Texts) (records : List Texts) : IsSplit offset →
    Loads offset (some (labels, records)) (.error .fractionalOffset)
  | shown {labels : Texts} {records : List Texts} {width : Nat} {table : List Row} : ¬IsSplit offset →
    Shows labels records width table → Loads offset (some (labels, records)) (.ok table)

/-- The number of rows above the labels. -/
def rowsAbove (offset : Number) : Nat :=
  (offset.toInt?.getD 0 - 1).toNat

theorem shows_rows {grid : Grid} (narrow : grid.width ≤ Column.greatest) {labels : List Cell} {data : Grid}
    (subset : labels :: data ⊆ grid) {rest : List Row}
    (same : rest.filter (fun row => !row.isBlank) =
      (data.map (rowOf grid.width)).filter fun row => !row.isBlank) :
    Shows (textsIn labels) (records data) grid.width (rowOf grid.width labels :: rest) := by
  have fits : ∀ cells ∈ labels :: data, cells.length ≤ grid.width :=
    fun cells member => width_le_iff.1 (Nat.le_refl _) cells (subset member)
  refine ⟨narrow, ⟨rest, rfl, ?_⟩, ?_, ?_⟩
  · rw [same, List.filter_map, records, List.map_map]
    refine congrArg _ (List.filter_congr fun cells member => ?_)
    have blank := isBlank_rowOf (fits cells (.tail _ member))
    exact (congrArg not blank).trans (Bool.not_not _)
  · intro texts member
    rcases List.mem_cons.1 member with rfl | member
    · exact within_textsIn (fits _ List.mem_cons_self)
    · obtain ⟨cells, among, rfl⟩ := List.mem_map.1 member
      exact within_textsIn (fits _ (.tail _ (List.mem_filter.1 among).1))
  · intro texts member place text there
    obtain ⟨cells, -, rfl⟩ := List.mem_map.1 member
    exact isAllBlank_of_textsIn there

/-- A table shows what its sheet holds from the labels on. -/
theorem loads_load {workbook : Workbook} {sheet : String} {grid : Grid} {offset : Number} {n : Int}
    (present : workbook.get? sheet = some grid) (narrow : grid.width ≤ Column.greatest)
    (whole : offset.toInt? = some n) :
    Loads offset (content (grid.drop (rowsAbove offset))) (load workbook sheet offset) := by
  have all : (offset.below 0 || offset.toInt? == some 0) = decide (n ≤ 0) := by
    rw [Bool.eq_iff_iff, Bool.or_eq_true, Number.below_iff whole, whole, beq_iff_eq, Option.some.injEq,
      decide_eq_true_iff]
    omega
  have height : (rowsOf grid).length = grid.length := List.length_map _
  have inside : (!offset.below ((rowsOf grid).length + 1)) = decide ((grid.length : Int) < n) := by
    rw [Bool.eq_iff_iff, Bool.not_eq_true', ← Bool.not_eq_true, Number.below_iff whole, height,
      decide_eq_true_iff]
    omega
  have above : rowsAbove offset = (n - 1).toNat := by
    rw [rowsAbove, whole]
    rfl
  unfold load
  rw [present, above]
  dsimp only
  rw [if_neg (Nat.not_lt_of_le narrow), all, inside]
  by_cases early : n ≤ 0
  -- The whole sheet is taken, blank rows and all, and its first row is that of the labels.
  · rw [decide_eq_true early, if_pos rfl]
    have first : (n - 1).toNat = 0 := by omega
    rw [first, List.drop_zero]
    cases grid with
    | nil => exact .nothing
    | cons labels data =>
      have count : ¬IsSplit offset := fun split => by
        have below := (Number.below_iff whole 1).2 (by omega)
        cases below.symm.trans split.2
      exact .shown count (shows_rows narrow (List.Subset.refl _) rfl)
  rw [decide_eq_false early, if_neg Bool.false_ne_true]
  show Loads offset _ (if decide ((grid.length : Int) < n) = true then _ else _)
  by_cases short : (grid.length : Int) < n
  · rw [decide_eq_true short, if_pos rfl, List.drop_eq_nil_of_le (by omega)]
    exact .nothing
  rw [decide_eq_false short, if_neg Bool.false_ne_true]
  cases rest : grid.drop (n - 1).toNat with
  | nil =>
    have none := List.drop_eq_nil_iff.1 rest
    omega
  | cons labels data =>
    cases offset with
    -- Rows are counted from here on, and a number with a point counts none even if it is whole.
    | real x =>
      refine .refused _ _ ⟨⟨x, rfl⟩, ?_⟩
      rw [← Bool.not_eq_true, Number.below_iff whole]
      omega
    | whole m =>
      obtain rfl : m = n := Option.some.inj whole
      have start : m.toNat - 1 = (m - 1).toNat := by omega
      have rows : below (rowsOf grid) m.toNat = rowOf grid.width labels ::
          (data.map (rowOf grid.width)).filter fun row => !row.isBlank := by
        rw [below, rowsOf, start, ← List.map_drop, rest]
        rfl
      show Loads _ _ (.ok (below (rowsOf grid) m.toNat))
      rw [rows]
      refine .shown (fun split => by obtain ⟨⟨_, real⟩, _⟩ := split; cases real) (shows_rows narrow ?_ ?_)
      · rw [← rest]
        exact List.drop_subset _ _
      · rw [List.filter_filter]
        simp only [Bool.and_self]

end Table

end Codebook
