import Codebook.Export.Tables
import Codebook.Proofs.Report
import Codebook.Proofs.Sheet.Content

/-!
# What a table shows

The sheets of a table are written into a file one after the other, each under the title that it gets. Where
the names of the sheets differ by more than case, also from the title that a sheet has at first, each sheet
keeps its name, and it shows its records: a row of labels, and for each record a row with what the record has
in the columns (`isTableOf_ofTable`).
-/

namespace Codebook.Spreadsheet

/-! ## Rows of records -/

/-- Whether a sheet shows records: the labels of the columns in their order, and below them a row for each
record with what the record has in each column. Where it has nothing, the cell is empty, and what it has in
other columns is not shown. -/
structure Shows (columns : List String) (records : List Record) (grid : Grid) : Prop where
  height : grid.length = records.length + 1
  width : ∀ row ∈ grid, row.length = columns.length
  labels : grid[0]? = some (columns.map Cell.text)
  cell : ∀ (i j : Nat) record column, records[i]? = some record → columns[j]? = some column →
    (grid[i + 1]?.bind fun row => row[j]?) =
      some (match record.get? column with
        | some value => cellOf value
        | none => .empty)

theorem cells_of_ne_nil {columns : List String} (nonempty : columns ≠ []) (records : List Record) :
    cells columns records =
      columns.map Cell.text :: records.map fun record => columns.map (cellAt record) := by
  rw [cells, if_neg (by simpa using nonempty)]

theorem length_of_mem_cells {columns : List String} {records : List Record} {row : List Cell}
    (member : row ∈ cells columns records) : row.length = columns.length := by
  unfold cells at member
  split at member
  · cases member
  · rcases List.mem_cons.1 member with rfl | member
    · exact List.length_map ..
    · obtain ⟨record, -, rfl⟩ := List.mem_map.1 member
      exact List.length_map ..

/-- The rows of a sheet of records are all as wide as its columns are many. -/
theorem squared_cells (columns : List String) (records : List Record) :
    squared (cells columns records) = cells columns records := by
  have narrow : (cells columns records).width ≤ columns.length :=
    Grid.width_le_iff.2 fun row member => Nat.le_of_eq (length_of_mem_cells member)
  refine (List.map_congr_left fun row member => ?_).trans (List.map_id _)
  have full : (cells columns records).width - row.length = 0 := by
    rw [length_of_mem_cells member]
    omega
  rw [full, List.replicate_zero, List.append_nil, id]

theorem squared_of_shown {columns : Option (List String)} {sheets : List (String × List Record)}
    {titled : List (String × Grid)}
    (shown : List.Forall₂ (fun sheet shown => shown.2 = cells (columnsOf columns sheet.2) sheet.2) sheets
      titled) :
    ∀ sheet ∈ titled, squared sheet.2 = sheet.2 := by
  induction shown with
  | nil => exact nofun
  | cons same _ ih => exact List.forall_mem_cons.2 ⟨by rw [same, squared_cells], ih⟩

theorem cellAt_eq (record : Record) (column : String) :
    cellAt record column =
      match record.get? column with
      | some value => cellOf value
      | none => .empty := by
  rw [cellAt]
  cases record.get? column <;> rfl

theorem shows_cells {columns : List String} (nonempty : columns ≠ []) (records : List Record) :
    Shows columns records (cells columns records) := by
  refine ⟨?_, fun row member => length_of_mem_cells member, ?_, fun i j record column atRow atColumn => ?_⟩
  · rw [cells_of_ne_nil nonempty]
    simp
  · rw [cells_of_ne_nil nonempty]
    rfl
  · rw [cells_of_ne_nil nonempty, ← cellAt_eq]
    simp [atRow, atColumn]

/-! ## Sheets on top of each other -/

/-- A file into which sheets with titles are written one after the other. -/
def layered (written titled : List (String × Grid)) : List (String × Grid) :=
  titled.foldl (fun all sheet => put all sheet.1 sheet.2) written

theorem put_of_not_mem {sheets : List (String × Grid)} {title : String}
    (fresh : title ∉ sheets.map Prod.fst) (grid : Grid) : put sheets title grid = sheets ++ [(title, grid)] := by
  induction sheets with
  | nil => rfl
  | cons sheet rest ih =>
    rw [List.map_cons, List.mem_cons, not_or] at fresh
    have other : (sheet.1 == title) = false := beq_eq_false_iff_ne.2 (Ne.symm fresh.1)
    rw [put, other, ih fresh.2]
    rfl

/-! ## Titles -/

theorem freeTitle_of_apart {used : List String} {wanted : String}
    (apart : Text.lower wanted ∉ used.map Text.lower) : freeTitle used wanted = wanted := by
  rw [freeTitle, if_neg]
  rw [List.any_eq_true]
  rintro ⟨title, member, same⟩
  exact apart (List.mem_map.2 ⟨title, member, beq_iff_eq.1 same⟩)

/-- A name that differs from the titles in use, and from the first title of a sheet, by more than case becomes
the title of its sheet. -/
theorem titleFor_of_apart {used : List String} {wanted title : String}
    (apart : Text.lower wanted ∉ used.map Text.lower)
    (default : Text.lower defaultTitle ∉ used.map Text.lower)
    (other : Text.lower wanted ≠ Text.lower defaultTitle) (ok : titleFor used wanted = .ok title) :
    title = wanted := by
  unfold titleFor at ok
  split at ok
  · cases ok
    rfl
  split at ok
  · cases ok
  obtain ⟨_, -, ok⟩ := Report.exists_of_bind_eq_ok ok
  have both : Text.lower wanted ∉ (used ++ [defaultTitle]).map Text.lower := by
    simpa using ⟨by simpa using apart, other⟩
  simp only [freeTitle_of_apart default, freeTitle_of_apart both, ite_self] at ok
  exact (Except.ok.inj ok).symm

/-- Sheets are written one after the other, and side by side under their names where these differ by more than
case. -/
theorem exists_titled_of_addAll {columns : Option (List String)} {written all : List (String × Grid)}
    {sheets : List (String × List Record)} (ok : addAll columns written sheets = .ok all) :
    ∃ titled,
      List.Forall₂ (fun sheet shown => shown.2 = cells (columnsOf columns sheet.2) sheet.2) sheets titled ∧
      all = layered written titled ∧
      (((defaultTitle :: (written.map Prod.fst ++ sheets.map Prod.fst)).map Text.lower).Nodup →
        titled.map Prod.fst = sheets.map Prod.fst ∧ all = written ++ titled) := by
  induction sheets generalizing written with
  | nil =>
    cases ok
    exact ⟨[], .nil, rfl, fun _ => ⟨rfl, (List.append_nil _).symm⟩⟩
  | cons sheet rest ih =>
    obtain ⟨title, titled, ok⟩ := Report.exists_of_bind_eq_ok ok
    obtain ⟨_, -, ok⟩ := Report.exists_of_bind_eq_ok ok
    obtain ⟨others, shown, same, side_by_side⟩ := ih ok
    let grid := cells (columnsOf columns sheet.2) sheet.2
    refine ⟨(title, grid) :: others, .cons rfl shown, same, fun apart => ?_⟩
    -- the first name is apart from the titles in use, so it is the title, and the rest is apart from it too
    have distinct := apart
    simp only [List.map_cons, List.map_append, List.nodup_cons, List.nodup_append, List.mem_append,
      List.mem_cons, not_or] at distinct
    obtain ⟨⟨default, other, -⟩, -, -, between⟩ := distinct
    have fresh : Text.lower sheet.1 ∉ (written.map Prod.fst).map Text.lower := fun known =>
      between _ known _ (.inl rfl) rfl
    obtain rfl := titleFor_of_apart fresh default (Ne.symm other) titled
    have absent : sheet.1 ∉ written.map Prod.fst := fun known => fresh (List.mem_map_of_mem known)
    rw [put_of_not_mem absent] at side_by_side
    obtain ⟨names, whole⟩ := side_by_side (by simpa using apart)
    exact ⟨by rw [List.map_cons, names, List.map_cons], by rw [whole, List.append_assoc]; rfl⟩

/-! ## Tables -/

/-- Whether a spreadsheet holds a table. Each of its sheets shows its records; the sheets are written one after
the other, each under a title, and their cells are stored. Where the names of the sheets differ by more than
case, they are the titles, and no sheet is written over another one. -/
def IsTableOf (columns : Option (List String)) (sheets : List (String × List Record)) (stored : Spreadsheet) :
    Prop :=
  ∃ titled : List (String × Grid),
    List.Forall₂ (fun sheet shown =>
      (columnsOf columns sheet.2 = [] → shown.2 = []) ∧
        (columnsOf columns sheet.2 ≠ [] → Shows (columnsOf columns sheet.2) sheet.2 shown.2)) sheets titled ∧
    stored = (layered [] titled).map (fun sheet =>
      (sheet.1, (squared sheet.2).map fun row => row.map Cell.stored)) ∧
    (((defaultTitle :: sheets.map Prod.fst).map Text.lower).Nodup →
      titled.map Prod.fst = sheets.map Prod.fst ∧
        stored = titled.map fun sheet => (sheet.1, sheet.2.map fun row => row.map Cell.stored))

theorem isTableOf_ofTable {columns : Option (List String)} {sheets : List (String × List Record)}
    {stored : Spreadsheet} (ok : ofTable columns sheets = .ok stored) : IsTableOf columns sheets stored := by
  obtain ⟨written, added, ok⟩ := Report.exists_of_bind_eq_ok ok
  have made : stored = written.map fun sheet =>
      (sheet.1, (squared sheet.2).map fun row => row.map Cell.stored) := by
    unfold storeAll at ok
    split at ok
    · cases ok
    split at ok
    · cases ok
    · cases ok
      rw [List.map_map]
      rfl
  obtain ⟨titled, shown, layers, side_by_side⟩ := exists_titled_of_addAll added
  refine ⟨titled, shown.imp fun sheet grid same => ?_, by rw [made, layers], fun apart => ?_⟩
  · rw [same]
    exact ⟨fun none => by rw [none]; rfl, fun nonempty => shows_cells nonempty sheet.2⟩
  · obtain ⟨names, whole⟩ := side_by_side (by rwa [List.map_nil, List.nil_append])
    rw [List.nil_append] at whole
    rw [made, whole]
    refine ⟨names, List.map_congr_left fun sheet member => ?_⟩
    rw [squared_of_shown shown sheet member]

end Codebook.Spreadsheet
