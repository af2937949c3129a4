import Codebook.Proofs.ImportRow.Placing
import Codebook.ImportRow.Distinct
import Mathlib.Data.List.Induction

/-!
# Distinct rows

A row is kept exactly if it is the first with its object name (`mem_distinct`), so each name is kept
once. Placed rows are already in the order of their positions: of them the distinct rows are simply the
first ones (`distinct_placed`).
-/

namespace Codebook.ImportRow

/-! ## First rows -/

theorem mem_firstsFrom_iff {seen : List String} {rows : List ImportRow} {row : ImportRow} :
    row ∈ firstsFrom seen rows ↔ row.objectName ∉ seen ∧
      rows.find? (fun other => other.objectName == row.objectName) = some row := by
  fun_induction firstsFrom seen rows with
  | case1 => simp
  | case2 seen first rest known ih =>
    rw [ih]
    refine and_congr_right fun fresh => ?_
    have other : (first.objectName == row.objectName) = false := by
      refine beq_eq_false_iff_ne.2 fun same => fresh ?_
      rw [← same]
      exact List.contains_iff_mem.1 known
    rw [List.find?_cons, other]
  | case3 seen first rest unknown ih =>
    rw [List.mem_cons, ih, List.mem_cons, not_or, List.find?_cons]
    have fresh : first.objectName ∉ seen := fun member => unknown (List.contains_iff_mem.2 member)
    by_cases same : first.objectName = row.objectName
    · simp only [same, beq_self_eq_true, not_true_eq_false, false_and, or_false, Option.some.injEq]
      exact ⟨fun equal => ⟨same ▸ fresh, equal.symm⟩, fun both => both.2.symm⟩
    · have other : row ≠ first := fun equal => same (congrArg objectName equal.symm)
      have different : (first.objectName == row.objectName) = false := beq_eq_false_iff_ne.2 same
      simp only [other, different, Ne.symm same, not_false_eq_true, true_and, false_or]

theorem mem_firsts_iff {rows : List ImportRow} {row : ImportRow} :
    row ∈ firsts rows ↔ rows.find? (fun other => other.objectName == row.objectName) = some row := by
  rw [firsts, mem_firstsFrom_iff]
  simp

theorem firstsFrom_sublist (seen : List String) (rows : List ImportRow) :
    (firstsFrom seen rows).Sublist rows := by
  fun_induction firstsFrom seen rows with
  | case1 => exact .slnil
  | case2 seen first rest _ ih => exact .cons first ih
  | case3 seen first rest _ ih => exact .cons_cons first ih

theorem firstsFrom_concat (seen : List String) (rows : List ImportRow) (row : ImportRow) :
    firstsFrom seen (rows ++ [row]) =
      if row.objectName ∈ seen ∨ row.objectName ∈ rows.map objectName then firstsFrom seen rows
      else firstsFrom seen rows ++ [row] := by
  fun_induction firstsFrom seen rows with
  | case1 seen =>
    simp [firstsFrom]
  | case2 seen first rest known ih =>
    have before : first.objectName ∈ seen := List.contains_iff_mem.1 known
    rw [List.cons_append, firstsFrom, if_pos known, ih]
    refine if_congr ?_ rfl rfl
    rw [List.map_cons, List.mem_cons]
    constructor
    · exact Or.imp_right .inr
    · rintro (inSeen | same | later)
      · exact .inl inSeen
      · exact .inl (same ▸ before)
      · exact .inr later
  | case3 seen first rest unknown ih =>
    rw [List.cons_append, firstsFrom, if_neg unknown, ih]
    have same : (row.objectName ∈ first.objectName :: seen ∨ row.objectName ∈ rest.map objectName) ↔
        row.objectName ∈ seen ∨ row.objectName ∈ (first :: rest).map objectName := by
      rw [List.map_cons, List.mem_cons, List.mem_cons, or_assoc, or_left_comm]
    by_cases present : row.objectName ∈ seen ∨ row.objectName ∈ (first :: rest).map objectName
    · rw [if_pos (same.2 present), if_pos present]
    · rw [if_neg fun before => present (same.1 before), if_neg present, List.cons_append]

/-- A row at the end is kept if its name is new. -/
theorem firsts_concat {rows : List ImportRow} {row : ImportRow}
    (fresh : row.objectName ∉ rows.map objectName) : firsts (rows ++ [row]) = firsts rows ++ [row] := by
  rw [firsts, firstsFrom_concat, if_neg (by simpa using fresh), ← firsts]

/-- A row at the end is not kept if its name is known. -/
theorem firsts_concat_of_mem {rows : List ImportRow} {row : ImportRow}
    (known : row.objectName ∈ rows.map objectName) : firsts (rows ++ [row]) = firsts rows := by
  rw [firsts, firstsFrom_concat, if_pos (.inr known), ← firsts]

/-- Rows with different names are all first. -/
theorem firsts_eq_self {rows : List ImportRow} (nodup : (rows.map objectName).Nodup) :
    firsts rows = rows := by
  induction rows using List.reverseRecOn with
  | nil => rfl
  | append_singleton rows row ih =>
    rw [List.map_append, List.nodup_append] at nodup
    have fresh : row.objectName ∉ rows.map objectName := fun known =>
      nodup.2.2 _ known _ List.mem_cons_self rfl
    rw [firsts_concat fresh, ih nodup.1]

theorem firsts_sublist (rows : List ImportRow) : (firsts rows).Sublist rows :=
  firstsFrom_sublist [] rows

/-! ## Distinct rows -/

/-- The distinct rows are those that are the first with their object name. -/
theorem mem_distinct {rows : List ImportRow} {row : ImportRow} :
    row ∈ distinct rows ↔ rows.find? (fun other => other.objectName == row.objectName) = some row := by
  rw [distinct, List.mem_mergeSort, mem_firsts_iff]

theorem eq_of_mem_distinct {rows : List ImportRow} {a b : ImportRow} (left : a ∈ distinct rows)
    (right : b ∈ distinct rows) (names : a.objectName = b.objectName) : a = b := by
  have first := mem_distinct.1 left
  rw [names, mem_distinct.1 right] at first
  exact (Option.some.inj first).symm

theorem distinct_eq_firsts {rows : List ImportRow}
    (sorted : rows.Pairwise fun a b => a.position ≤ b.position) : distinct rows = firsts rows := by
  refine List.mergeSort_of_pairwise ?_
  exact (sorted.sublist (firsts_sublist rows)).imp decide_eq_true

theorem distinct_placed (rows : List ImportRow) : distinct (placed rows) = firsts (placed rows) :=
  distinct_eq_firsts ((pairwise_position_placed rows).imp Int.le_of_lt)

/-! ## Answers among first rows -/

/-- What tells rows apart in a sheet but for their places: the name, the kind and the text. -/
def face (row : ImportRow) : String × Bool × String :=
  (row.objectName, row.isHeader, row.text)

/-- Whether the first row with a name is an answer with a text. -/
def Leads (rows : List ImportRow) (name text : String) : Prop :=
  ∃ row, rows.find? (fun other => other.objectName == name) = some row ∧ row.isHeader = false ∧
    row.text = text

theorem leads_iff_face {rows : List ImportRow} {name text : String} :
    Leads rows name text ↔
      (rows.map face).find? (fun shown => shown.1 == name) = some (name, false, text) := by
  rw [Leads, List.find?_map, Option.map_eq_some_iff]
  refine exists_congr fun row => and_congr_right fun found => ?_
  have named : row.objectName = name := beq_iff_eq.1 (List.find?_some found :)
  rw [face, named, Prod.mk.injEq, Prod.mk.injEq]
  exact (and_iff_right rfl).symm

instance (rows : List ImportRow) (name text : String) : Decidable (Leads rows name text) :=
  decidable_of_iff _ leads_iff_face.symm

theorem leads_placed {rows : List ImportRow} {name text : String} :
    Leads (placed rows) name text ↔ Leads rows name text := by
  rw [leads_iff_face, leads_iff_face, map_placed fun _ => rfl]

/-- Whether the first row with a name is a header, or an answer with another text. -/
def IsTaken (rows : List ImportRow) (name text : String) : Prop :=
  ∃ row, rows.find? (fun other => other.objectName == name) = some row ∧
    (row.isHeader = true ∨ row.text ≠ text)

/-- A name that rows have is that of an answer with a text unless it is taken. -/
theorem leads_iff_not_isTaken {rows : List ImportRow} {name : String}
    (known : name ∈ rows.map objectName) (text : String) :
    Leads rows name text ↔ ¬IsTaken rows name text := by
  obtain ⟨other, among, named⟩ := List.mem_map.1 known
  have some : (rows.find? fun other => other.objectName == name).isSome = true :=
    List.find?_isSome.2 ⟨other, among, beq_iff_eq.2 named⟩
  obtain ⟨row, first⟩ := Option.isSome_iff_exists.1 some
  simp only [Leads, IsTaken, first, Option.some.injEq, exists_eq_left', not_or, Bool.not_eq_true, not_not]

/-- Whether no answer comes after a row with its name. -/
def AnswersFirst (rows : List ImportRow) : Prop :=
  rows.Pairwise fun before after => after.isHeader = false → before.objectName ≠ after.objectName

instance (rows : List ImportRow) : Decidable (AnswersFirst rows) :=
  inferInstanceAs (Decidable (List.Pairwise _ rows))

theorem answersFirst_placed {rows : List ImportRow} : AnswersFirst (placed rows) ↔ AnswersFirst rows := by
  have ofFace (rows : List ImportRow) : AnswersFirst rows ↔
      (rows.map face).Pairwise fun before after => after.2.1 = false → before.1 ≠ after.1 := by
    rw [List.pairwise_map]
    rfl
  rw [ofFace, ofFace, map_placed fun _ => rfl]

/-- The number of answers among rows. -/
def answerCount (rows : List ImportRow) : Nat :=
  rows.countP fun row => !row.isHeader

theorem answerCount_placed (rows : List ImportRow) : answerCount (placed rows) = answerCount rows :=
  countP_placed (fun _ => rfl) rows

theorem answerCount_concat (rows : List ImportRow) (row : ImportRow) :
    answerCount (rows ++ [row]) = answerCount rows + if row.isHeader then 0 else 1 := by
  rw [answerCount, List.countP_append, List.countP_singleton, answerCount]
  cases row.isHeader <;> rfl

theorem answerCount_firsts_le (rows : List ImportRow) : answerCount (firsts rows) ≤ answerCount rows :=
  (firsts_sublist rows).countP_le

/-- As many answers are first as there are exactly if no answer comes after a row with its name. -/
theorem answerCount_firsts_eq_iff {rows : List ImportRow} :
    answerCount (firsts rows) = answerCount rows ↔ AnswersFirst rows := by
  induction rows using List.reverseRecOn with
  | nil => exact iff_of_true rfl .nil
  | append_singleton rows row ih =>
    have split : AnswersFirst (rows ++ [row]) ↔ AnswersFirst rows ∧
        (row.isHeader = false → row.objectName ∉ rows.map objectName) := by
      rw [AnswersFirst, List.pairwise_append]
      simp only [List.pairwise_singleton, List.mem_singleton, forall_eq, true_and, List.mem_map,
        not_exists, not_and]
      exact and_congr_right fun _ => ⟨fun all answer other among => all other among answer,
        fun all other among answer => all answer other among⟩
    have fewer := answerCount_firsts_le rows
    rw [split, ← ih, answerCount_concat]
    by_cases known : row.objectName ∈ rows.map objectName
    · rw [firsts_concat_of_mem known]
      cases kind : row.isHeader with
      | true => simp
      | false =>
        simp only [Bool.false_eq_true, if_false, known, not_true_eq_false, imp_false, and_false, iff_false]
        omega
    · rw [firsts_concat known, answerCount_concat]
      simp only [known, not_false_eq_true, implies_true, and_true]
      omega

end Codebook.ImportRow
