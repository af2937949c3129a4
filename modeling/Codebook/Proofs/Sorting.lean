import Mathlib.Order.Lattice

/-!
# Sorting by keys

Sorting leaves items with one key in the order that they had (`filter_mergeSort`).
-/

namespace Codebook

variable {α κ : Type}

/-- Items that are as good as each other for the order keep the order that they had. -/
theorem filter_mergeSort {le : α → α → Bool} (trans : ∀ a b c, le a b = true → le b c = true → le a c = true)
    (total : ∀ a b, (le a b || le b a) = true) {p : α → Bool}
    (tied : ∀ a b, p a = true → p b = true → le a b = true) (items : List α) :
    (items.mergeSort le).filter p = items.filter p := by
  have ordered : (items.filter p).Pairwise fun a b => le a b = true :=
    List.pairwise_of_forall_mem_list fun a left b right =>
      tied a b (List.mem_filter.1 left).2 (List.mem_filter.1 right).2
  -- What is in order already stays a sublist of what is sorted, and there are no more such items.
  have kept : (items.filter p).Sublist (items.mergeSort le) :=
    List.sublist_mergeSort trans total ordered List.filter_sublist
  have among := kept.filter p
  rw [List.filter_filter] at among
  simp only [Bool.and_self] at among
  exact (among.eq_of_length ((List.mergeSort_perm ..).filter p).length_eq.symm).symm

section Key

variable [LinearOrder κ] (key : α → κ)

theorem decide_le_trans (a b c : α) (first : decide (key a ≤ key b) = true)
    (second : decide (key b ≤ key c) = true) : decide (key a ≤ key c) = true :=
  decide_eq_true (le_trans (of_decide_eq_true first) (of_decide_eq_true second))

theorem decide_le_total (a b : α) : (decide (key a ≤ key b) || decide (key b ≤ key a)) = true := by
  rw [Bool.or_eq_true, decide_eq_true_eq, decide_eq_true_eq]
  exact le_total ..

theorem pairwise_sorted (items : List α) :
    (items.mergeSort fun a b => key a ≤ key b).Pairwise fun a b => key a ≤ key b :=
  (List.pairwise_mergeSort (decide_le_trans key) (decide_le_total key) items).imp of_decide_eq_true

/-- Items with one key keep the order that they had. -/
theorem filter_sorted (items : List α) (k : κ) :
    (items.mergeSort fun a b => key a ≤ key b).filter (fun a => key a == k) =
      items.filter fun a => key a == k := by
  refine filter_mergeSort (decide_le_trans key) (decide_le_total key) (fun a b left right => ?_) items
  rw [decide_eq_true_eq, beq_iff_eq.1 left, beq_iff_eq.1 right]

end Key

end Codebook
