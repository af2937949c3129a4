import Codebook.Proofs.Sorting
import Codebook.Proofs.Taxonomy.Building

/-!
# The order of groups

Keys of groups are linearly ordered, so the groups of a taxonomy stand in the order of their keys
(`pairwise_inOrder`), and those with one key in the order in which their headers first come
(`filter_inOrder`). Where different groups have different keys, the order does not depend on the one in which
they were found (`inOrder_eq_of_perm`).
-/

namespace Codebook

/-! ## Keys -/

namespace GroupKey

theorem le_number_iff {m n : Nat} : (number m).le (number n) = true ↔ m ≤ n := by
  rw [le, decide_eq_true_eq]

theorem le_text_iff {s t : String} : (text s).le (text t) = true ↔ s ≤ t := by
  rw [le, Bool.not_eq_true', decide_eq_false_iff_not, String.not_lt]

theorem le_total (a b : GroupKey) : (a.le b || b.le a) = true := by
  rw [Bool.or_eq_true]
  cases a with
  | number m =>
    cases b with
    | number n => simpa only [le_number_iff] using Nat.le_total m n
    | text _ => exact .inl rfl
  | text s =>
    cases b with
    | number _ => exact .inr rfl
    | text t => simpa only [le_text_iff] using String.le_total s t

theorem le_refl (a : GroupKey) : a.le a = true := by
  simpa only [Bool.or_self] using le_total a a

theorem le_trans {a b c : GroupKey} (first : a.le b = true) (second : b.le c = true) : a.le c = true := by
  cases a with
  | number l =>
    cases c with
    | number n =>
      cases b with
      | number m => exact le_number_iff.2 (Nat.le_trans (le_number_iff.1 first) (le_number_iff.1 second))
      | text _ => cases second
    | text _ => rfl
  | text r =>
    cases b with
    | number _ => cases first
    | text s =>
      cases c with
      | number _ => cases second
      | text t => exact le_text_iff.2 (String.le_trans (le_text_iff.1 first) (le_text_iff.1 second))

theorem le_antisymm {a b : GroupKey} (first : a.le b = true) (second : b.le a = true) : a = b := by
  cases a with
  | number m =>
    cases b with
    | number n => rw [Nat.le_antisymm (le_number_iff.1 first) (le_number_iff.1 second)]
    | text _ => cases second
  | text s =>
    cases b with
    | number _ => cases first
    | text t => rw [String.le_antisymm (le_text_iff.1 first) (le_text_iff.1 second)]

end GroupKey

namespace Taxonomy

/-! ## Groups in order -/

theorem keyOf_le_total (a b : Group) :
    ((keyOf a.code).le (keyOf b.code) || (keyOf b.code).le (keyOf a.code)) = true :=
  GroupKey.le_total ..

theorem keyOf_le_trans (a b c : Group) (first : (keyOf a.code).le (keyOf b.code) = true)
    (second : (keyOf b.code).le (keyOf c.code) = true) : (keyOf a.code).le (keyOf c.code) = true :=
  GroupKey.le_trans first second

theorem perm_inOrder (groups : List Group) : (inOrder groups).Perm groups :=
  List.mergeSort_perm ..

theorem pairwise_inOrder (groups : List Group) :
    (inOrder groups).Pairwise fun a b => (keyOf a.code).le (keyOf b.code) = true :=
  List.pairwise_mergeSort keyOf_le_trans keyOf_le_total groups

/-- Groups with one key keep the order in which their headers first come. -/
theorem filter_inOrder (groups : List Group) (key : GroupKey) :
    (inOrder groups).filter (fun g => keyOf g.code == key) = groups.filter fun g => keyOf g.code == key := by
  refine filter_mergeSort keyOf_le_trans keyOf_le_total (fun a b left right => ?_) groups
  rw [beq_iff_eq.1 left, beq_iff_eq.1 right]
  exact GroupKey.le_refl _

/-- Groups with keys of their own stand in one order, in whichever they were found. -/
theorem inOrder_eq_of_perm {groups others : List Group} (perm : groups.Perm others)
    (distinct : ∀ a ∈ groups, ∀ b ∈ groups, keyOf a.code = keyOf b.code → a = b) :
    inOrder groups = inOrder others := by
  refine List.Perm.eq_of_pairwise ?_ (pairwise_inOrder groups) (pairwise_inOrder others)
    ((perm_inOrder groups).trans (perm.trans (perm_inOrder others).symm))
  intro a b left right first second
  exact distinct a (mem_inOrder.1 left) b (perm.mem_iff.2 (mem_inOrder.1 right))
    (GroupKey.le_antisymm first second)

end Taxonomy

end Codebook
