import Codebook.Proofs.Keyed
import Codebook.Proofs.Report
import Codebook.Proofs.Sheet.Content
import Codebook.Sheet.Spreadsheet

/-!
# The layout of a sheet

A blank row below the labels of a sheet and the rows above them are layout. One change of it keeps what the sheet
holds from its labels on (`Edit.content_eq`), as long as the sheet can be read at all: its first cell may have a
mark in front that cannot be taken away (`exists_read_iff`).
-/

namespace Codebook

/-! ## Sheets as they are read -/

namespace Grid

/-- The cells of a stored sheet as they are read, if the mark in front of them can be taken away. -/
def shown (grid : Grid) : Grid :=
  grid.trimmed.unmarked?.getD grid.trimmed

/-- A mark concerns the first row alone, and none of its cells goes with it. -/
theorem exists_unmarked (row : List Cell) : ∃ row' : List Cell, row'.length = row.length ∧
    ∀ rows : Grid, (unmarked? (row :: rows)).getD (row :: rows) = row' :: rows := by
  cases row with
  | nil => exact ⟨[], rfl, fun _ => rfl⟩
  | cons cell cells =>
    cases cell with
    | text value =>
      cases marked : withoutMark? value.toList with
      | none => exact ⟨.text value :: cells, rfl, fun rows => by rw [unmarked?, marked]; rfl⟩
      | some chars =>
        exact ⟨.text (String.ofList chars) :: cells, rfl, fun rows => by rw [unmarked?, marked]; rfl⟩
    | empty | number | flag | fault => exact ⟨_, rfl, fun _ => rfl⟩

/-- A sheet does not get wider by being read. -/
theorem width_shown_le {grid : Grid} {bound : Nat} (narrow : grid.width ≤ bound) :
    grid.shown.width ≤ bound := by
  have trimmed : ∀ row ∈ grid.trimmed, row.length ≤ bound := by
    intro row member
    have kept := (List.dropWhile_sublist _).subset (List.mem_reverse.1 member)
    obtain ⟨whole, among, rfl⟩ := List.mem_map.1 (List.mem_reverse.1 kept)
    have shorter := (List.dropWhile_sublist (l := whole.reverse) Cell.isEmpty).length_le
    rw [List.length_reverse] at shorter
    rw [trimRow, List.length_reverse]
    exact Nat.le_trans shorter (width_le_iff.1 narrow whole among)
  rw [width_le_iff, shown]
  cases rows : grid.trimmed with
  | nil => exact List.forall_mem_nil _
  | cons row rest =>
    obtain ⟨row', same, unmarked⟩ := exists_unmarked row
    rw [rows, List.forall_mem_cons] at trimmed
    rw [unmarked, List.forall_mem_cons, same]
    exact trimmed

theorem drop_shown {count : Nat} (positive : 0 < count) (grid : Grid) :
    grid.shown.drop count = trimmed (grid.drop count) := by
  obtain ⟨more, rfl⟩ := Nat.exists_eq_succ_of_ne_zero (Nat.ne_of_gt positive)
  rw [← drop_trimmed, shown]
  cases grid.trimmed with
  | nil => rfl
  | cons row rows =>
    obtain ⟨row', -, unmarked⟩ := exists_unmarked row
    rw [unmarked]
    rfl

/-- One change of a sheet with `first` rows above its labels that leaves its data alone: a row without a text
is put somewhere below the labels, or rows above the labels are replaced by as many others. In a sheet that
ends before its labels there is nothing below them but rows that are not stored. -/
inductive Edit (first : Nat) : Grid → Grid → Prop
  | blankRow {above below : Grid} {row : List Cell} : first < above.length → hasText row = false →
    first < (trimmed (above ++ below)).length ∨ trimRow row = [] →
    Edit first (above ++ below) (above ++ row :: below)
  | titles {old new below : Grid} : new.length = old.length → old.length ≤ first →
    Edit first (old ++ below) (new ++ below)

theorem records_blankRow {row : List Cell} (blank : hasText row = false) (above below : Grid) :
    records (above ++ row :: below) = records (above ++ below) := by
  rw [records, records, List.filter_append, List.filter_cons, blank, if_neg Bool.false_ne_true,
    List.filter_append]

theorem trimmed_of_ne_nil {row : List Cell} {rows : Grid} (reached : trimmed (row :: rows) ≠ []) :
    trimmed (row :: rows) = trimRow row :: trimmed rows := by
  rw [trimmed_cons] at reached ⊢
  split at reached
  · exact absurd rfl reached
  · next other => exact if_neg other

/-- A row more does not make a sheet shorter. -/
theorem trimmed_blankRow_ne_nil (above : Grid) {below : Grid}
    (reached : trimmed (above ++ below) ≠ []) (row : List Cell) : trimmed (above ++ row :: below) ≠ [] := by
  intro empty
  rw [trimmed_eq_nil_iff] at empty
  refine reached (trimmed_eq_nil_iff.2 fun other member => empty other ?_)
  exact (List.sublist_cons_self row below).append_left above |>.subset member

theorem drop_shown_eq_nil {grid : Grid} {count : Nat} (empty : trimmed (grid.drop count) = []) :
    grid.shown.drop count = [] := by
  rcases Nat.eq_zero_or_pos count with rfl | positive
  · rw [List.drop_zero] at empty
    rw [shown, empty]
    rfl
  · rw [drop_shown positive, empty]

/-- A sheet that reaches its labels holds their texts and those of the rows below. -/
theorem exists_content {first : Nat} {above : Grid} (inside : first < above.length) :
    ∃ texts, ∀ below, trimmed ((above ++ below).drop first) ≠ [] →
      content ((above ++ below).shown.drop first) =
        some (texts, records (above.drop (first + 1) ++ below)) := by
  have split (below : Grid) : (above ++ below).drop first =
      above[first] :: (above.drop (first + 1) ++ below) := by
    rw [List.drop_append_of_le_length (Nat.le_of_lt inside), List.drop_eq_getElem_cons inside,
      List.cons_append]
  rcases Nat.eq_zero_or_pos first with rfl | positive
  · obtain ⟨row', -, unmarked⟩ := exists_unmarked (trimRow above[0])
    refine ⟨textsIn row', fun below reached => ?_⟩
    have whole := split below
    rw [List.drop_zero] at whole reached ⊢
    rw [whole] at reached
    rw [shown, whole, trimmed_of_ne_nil reached, unmarked, content, records_trimmed]
  · refine ⟨textsIn (trimRow above[first]), fun below reached => ?_⟩
    rw [split] at reached
    rw [drop_shown positive, split, trimmed_of_ne_nil reached, content, records_trimmed]

/-- A change keeps what a sheet holds from its labels on. -/
theorem Edit.content_eq {first : Nat} {grid grid' : Grid} (edit : Edit first grid grid') :
    content (grid.shown.drop first) = content (grid'.shown.drop first) := by
  cases edit with
  | @titles old new below same among =>
    rcases Nat.eq_zero_or_pos first with rfl | positive
    -- The mark is taken off the labels here, but there is no row above them to replace.
    · obtain rfl := List.eq_nil_of_length_eq_zero (Nat.le_zero.1 among)
      obtain rfl := List.eq_nil_of_length_eq_zero same
      rfl
    · have among' : new.length ≤ first := same ▸ among
      rw [drop_shown positive, drop_shown positive, List.drop_append, List.drop_append, same,
        List.drop_eq_nil_of_le among, List.drop_eq_nil_of_le among']
  | @blankRow above below row inside blank reached =>
    have split (rows : Grid) : (above ++ rows).drop first = above.drop first ++ rows :=
      List.drop_append_of_le_length (Nat.le_of_lt inside)
    by_cases empty : trimmed ((above ++ below).drop first) = []
    -- The sheet ends before its labels, so the row below them is one without cells.
    · have bare : trimRow row = [] := by
        refine reached.resolve_left fun there => ?_
        rw [← drop_trimmed, List.drop_eq_nil_iff] at empty
        omega
      have empty' : trimmed ((above ++ row :: below).drop first) = [] := by
        rw [split, trimmed_eq_nil_iff] at empty ⊢
        intro other member
        rcases List.mem_append.1 member with member | member
        · exact empty other (List.mem_append_left _ member)
        · rcases List.mem_cons.1 member with rfl | member
          · exact bare
          · exact empty other (List.mem_append_right _ member)
      rw [drop_shown_eq_nil empty, drop_shown_eq_nil empty']
    · have there : trimmed ((above ++ row :: below).drop first) ≠ [] := by
        rw [split] at empty ⊢
        exact trimmed_blankRow_ne_nil _ empty row
      obtain ⟨texts, held⟩ := exists_content inside
      rw [held below empty, held (row :: below) there, records_blankRow blank]

end Grid

/-! ## Files that can be read -/

namespace Spreadsheet

open Grid

/-- Whether the wanted sheets can be read: none of their numbers is beyond the finite ones, and a mark in
front of their first cell can be taken away. -/
def IsReadable (wanted : String → Bool) (sheets : Spreadsheet) : Prop :=
  ∀ sheet ∈ sheets, wanted sheet.1 = true →
    (sheet.2.any fun row => row.any Cell.isEndless) = false ∧ sheet.2.trimmed.unmarked?.isSome = true

instance (wanted : String → Bool) (sheets : Spreadsheet) : Decidable (IsReadable wanted sheets) :=
  inferInstanceAs (Decidable (∀ sheet ∈ sheets, _ → _))

theorem readSheet_ok {title : String} {grid : Grid}
    (finite : (grid.any fun row => row.any Cell.isEndless) = false)
    (unmarked : grid.trimmed.unmarked?.isSome = true) : readSheet title grid = .ok grid.shown := by
  obtain ⟨cells, same⟩ := Option.isSome_iff_exists.1 unmarked
  rw [readSheet, finite, if_neg Bool.false_ne_true, shown, same]
  rfl

theorem of_readSheet {title : String} {grid cells : Grid} (ok : readSheet title grid = .ok cells) :
    (grid.any fun row => row.any Cell.isEndless) = false ∧ grid.trimmed.unmarked?.isSome = true := by
  rw [readSheet] at ok
  split at ok
  · cases ok
  next finite =>
  refine ⟨Bool.not_eq_true _ ▸ finite, ?_⟩
  split at ok
  · next same => rw [same]; rfl
  · cases ok

section Read

variable {wanted : String → Bool} {sheets : Spreadsheet}

theorem read_of_isReadable (readable : IsReadable wanted sheets) :
    read wanted sheets =
      .ok (Keyed.ofList ((sheets.filter fun s => wanted s.1).map fun s => (s.1, s.2.shown))) := by
  have each : (sheets.filter fun s => wanted s.1).mapM
      (fun s => (readSheet s.1 s.2).map fun cells => (s.1, cells)) =
      .ok ((sheets.filter fun s => wanted s.1).map fun s => (s.1, s.2.shown)) := by
    refine Report.mapM_of_forall fun sheet member => ?_
    obtain ⟨among, isWanted⟩ := List.mem_filter.1 member
    obtain ⟨finite, unmarked⟩ := readable sheet among isWanted
    rw [readSheet_ok finite unmarked]
    rfl
  rw [read]
  exact congrArg (· >>= _) each

theorem exists_read_iff : (∃ workbook, read wanted sheets = .ok workbook) ↔ IsReadable wanted sheets := by
  refine ⟨fun ⟨workbook, ok⟩ sheet member isWanted => ?_, fun readable => ⟨_, read_of_isReadable readable⟩⟩
  obtain ⟨pairs, each, -⟩ := Report.exists_of_bind_eq_ok ok
  obtain ⟨pair, made⟩ := Report.exists_of_mapM each sheet (List.mem_filter.2 ⟨member, isWanted⟩)
  obtain ⟨cells, ok, -⟩ := Report.exists_of_map_eq_ok made
  exact of_readSheet ok

/-- A wanted sheet is found in the workbook as it is read. -/
theorem get?_of_read (distinct : (sheets.map Prod.fst).Nodup) {workbook : Workbook}
    (ok : read wanted sheets = .ok workbook) {title : String} (isWanted : wanted title = true) :
    workbook.get? title = (Keyed.get? sheets title).map shown := by
  rw [read_of_isReadable (exists_read_iff.1 ⟨workbook, ok⟩)] at ok
  obtain rfl := Except.ok.inj ok
  have kept : (((sheets.filter fun s => wanted s.1).map fun s => (s.1, s.2.shown)).map Prod.fst).Nodup := by
    rw [List.map_map]
    exact distinct.sublist (List.filter_sublist.map _)
  rw [Keyed.ofList_eq_self kept, Keyed.get?_map_snd, Keyed.get?_filter, isWanted, if_pos rfl]

end Read

end Spreadsheet

end Codebook
