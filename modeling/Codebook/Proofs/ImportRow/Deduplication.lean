import Codebook.Proofs.ImportRow.Distinct
import Codebook.Proofs.ImportRow.Reading
import Codebook.Proofs.Repetition
import Codebook.Proofs.Sorting
import Mathlib

/-!
# Rows without doubles

Which row of a name is kept is decided by the order in which the rows are given, and how those that are kept stand
by their positions, whatever these are (`deduplicates_distinct`). The rows of a text are in the order of their
positions, so of them just those are left out that have the name of an earlier one.
-/

namespace Codebook.ImportRow

open Definition

/-! ## First rows by their places -/

theorem firstsFrom_eq_leading {seen : List String} {before rows : List ImportRow}
    (met : ∀ name, name ∈ seen ↔ name ∈ before.map objectName) :
    firstsFrom seen rows = leading objectName before rows := by
  induction rows generalizing seen before with
  | nil => rfl
  | cons row rest ih =>
    rw [firstsFrom, leading_cons]
    by_cases known : row.objectName ∈ seen
    · rw [if_pos (List.contains_iff_mem.2 known), if_pos ((met _).1 known), ih (met_known met known)]
    · rw [if_neg fun there => known (List.contains_iff_mem.1 there), if_neg fun there => known ((met _).2 there),
        ih (met_cons met row)]

theorem firsts_eq_leading (rows : List ImportRow) : firsts rows = leading objectName [] rows :=
  firstsFrom_eq_leading fun _ => Iff.rfl

/-! ## Rows in the order of positions -/

/-- Whether a list is what is left of rows without doubles: the first row of each name, in the order of the
positions. -/
structure Deduplicates (rows result : List ImportRow) : Prop where
  apart : (result.map objectName).Nodup
  names : ∀ name, name ∈ result.map objectName ↔ name ∈ rows.map objectName
  first : ∀ row ∈ result, rows.find? (fun other => other.objectName == row.objectName) = some row
  ordered : result.Pairwise fun a b => a.position ≤ b.position
  /-- Rows with one position come in the order in which they are given. -/
  tied : ∀ p, result.filter (fun row => row.position == p) =
    (leading objectName [] rows).filter fun row => row.position == p

theorem perm_distinct (rows : List ImportRow) : (distinct rows).Perm (leading objectName [] rows) := by
  rw [distinct, firsts_eq_leading]
  exact List.mergeSort_perm ..

theorem nodup_map_distinct (rows : List ImportRow) : ((distinct rows).map objectName).Nodup :=
  ((perm_distinct rows).map objectName).nodup_iff.2 (nodup_map_leading [] rows)

theorem pairwise_position_distinct (rows : List ImportRow) :
    (distinct rows).Pairwise fun a b => a.position ≤ b.position :=
  pairwise_sorted position (firsts rows)

theorem deduplicates_distinct (rows : List ImportRow) : Deduplicates rows (distinct rows) where
  apart := nodup_map_distinct rows
  names name := by
    rw [((perm_distinct rows).map objectName).mem_iff, mem_map_leading]
    exact and_iff_left List.not_mem_nil
  first _ := mem_distinct.1
  ordered := pairwise_position_distinct rows
  tied p := by
    rw [← firsts_eq_leading]
    exact filter_sorted position (firsts rows) p

theorem distinct_distinct (rows : List ImportRow) : distinct (distinct rows) = distinct rows := by
  rw [distinct_eq_firsts (pairwise_position_distinct rows), firsts_eq_self (nodup_map_distinct rows)]

/-- Rows without doubles are the first rows of their names in the order of the positions, and have no doubles to
leave out again. Of the rows of a text, those are left that no row before them has the name of, as they stand. -/
theorem distinct_rows (rows : List ImportRow) :
    Deduplicates rows (distinct rows) ∧ distinct (distinct rows) = distinct rows ∧
      ∀ reading text parsed, (parse reading text).outcome = .ok parsed →
        distinct parsed.rows = leading objectName [] parsed.rows := by
  refine ⟨deduplicates_distinct rows, distinct_distinct rows, fun reading text parsed ok => ?_⟩
  obtain ⟨-, -, rfl⟩ := ofTokens_eq_ok_iff.1 ok
  rw [distinct_placed, firsts_eq_leading]

/-- Rows in no order, with positions that several of them have. -/
def unordered : List ImportRow :=
  let row (text name : String) (place : Int) : ImportRow := { plain text name with position := place }
  [row "Stout" "_801" 3, row "Ale" "_802" 0, row "Beer" "_801" 0, row "Porter" "_803" 3, row "Wine" "_901" 0]

/-- A text where a header comes after an answer with its name. -/
def headerAgain : String :=
  "_800 \"Beer\", _801 \"Stout\", _800 \"Beers\" \x7b _802 \"Ale\", _801 \"Porter\" \x7d"

/-- The first row of a name stays although another one has a lower position. -/
theorem distinct_rows_unordered :
    Deduplicates unordered (distinct unordered) ∧
      (distinct unordered).map text = ["Ale", "Wine", "Stout", "Porter"] ∧
      ∃ parsed, (parse ⟨["800"], false, some false⟩ headerAgain).outcome = .ok parsed ∧
        (distinct parsed.rows).map text = ["Beer", "Stout", "Ale"] := by
  have ok : (parse ⟨["800"], false, some false⟩ headerAgain).outcome =
      .ok ⟨placed (unplaced ⟨["800"], false, some false⟩ (tokenize headerAgain)),
        fragmentsOf ⟨["800"], false, some false⟩ (tokenize headerAgain)⟩ :=
    ofTokens_eq_ok_iff.2 ⟨nofun, by decide +kernel, rfl⟩
  obtain ⟨deduplicates, -, ofText⟩ := distinct_rows unordered
  refine ⟨deduplicates, by cbv, _, ok, ?_⟩
  rw [ofText _ _ _ ok]
  decide +kernel

end Codebook.ImportRow
