import Mathlib.Data.List.Nodup

/-!
# Items that repeat a key

An item of a list repeats its key if an item before it has the same one; all other items lead with theirs. What
is found by the places of the items is found by walking through them as well (`leading_cons`,
`repeating_cons`). The keys that items lead with are all keys there are, each of them once.
-/

namespace Codebook

section Keys

variable {α κ : Type} [DecidableEq κ] (key : α → κ)

/-- Whether an item has the key of one before it. The item is given with its place in the list, and the list
comes after `before`. -/
def repeatsKey (before items : List α) (p : α × Nat) : Bool :=
  ((before ++ items.take p.2).map key).contains (key p.1)

/-- The items that no item before them has the key of, in their order. -/
def leading (before items : List α) : List α :=
  (items.zipIdx.filter fun p => !repeatsKey key before items p).map Prod.fst

/-- The items that have the key of one before them, in their order. -/
def repeating (before items : List α) : List α :=
  (items.zipIdx.filter fun p => repeatsKey key before items p).map Prod.fst

variable {key}

/-! ## Walking through the items -/

theorem map_fst_filter_zipIdx_cons (p : α × Nat → Bool) (a : α) (rest : List α) :
    ((a :: rest).zipIdx.filter p).map Prod.fst =
      (if p (a, 0) then [a] else []) ++ (rest.zipIdx.filter fun q => p (q.1, q.2 + 1)).map Prod.fst := by
  have later : (rest.zipIdx 1).filter p =
      (rest.zipIdx.filter fun q => p (q.1, q.2 + 1)).map fun q => (q.1, q.2 + 1) := by
    rw [List.zipIdx_succ, List.filter_map]
    rfl
  rw [List.zipIdx_cons, List.filter_cons, Nat.zero_add, later]
  split <;> simp [Function.comp_def]

theorem repeatsKey_cons (before : List α) (a : α) (rest : List α) (q : α × Nat) :
    repeatsKey key before (a :: rest) (q.1, q.2 + 1) = repeatsKey key (before ++ [a]) rest q := by
  rw [repeatsKey, repeatsKey, List.take_succ_cons, List.append_assoc, List.singleton_append]

theorem repeatsKey_zero (before : List α) (a : α) (rest : List α) :
    repeatsKey key before (a :: rest) (a, 0) = (before.map key).contains (key a) := by
  rw [repeatsKey, List.take_zero, List.append_nil]

theorem leading_cons (before : List α) (a : α) (rest : List α) :
    leading key before (a :: rest) =
      if key a ∈ before.map key then leading key (before ++ [a]) rest
      else a :: leading key (before ++ [a]) rest := by
  unfold leading
  rw [map_fst_filter_zipIdx_cons, repeatsKey_zero]
  simp only [repeatsKey_cons, Bool.not_eq_true', List.contains_eq_mem, decide_eq_false_iff_not, ite_not]
  split <;> rfl

theorem repeating_cons (before : List α) (a : α) (rest : List α) :
    repeating key before (a :: rest) =
      if key a ∈ before.map key then a :: repeating key (before ++ [a]) rest
      else repeating key (before ++ [a]) rest := by
  unfold repeating
  rw [map_fst_filter_zipIdx_cons, repeatsKey_zero]
  simp only [repeatsKey_cons, List.contains_eq_mem, decide_eq_true_eq]
  split <;> rfl

/-! ## Keys that have been met -/

section Met

omit [DecidableEq κ]

variable {seen : List κ} {before : List α}

theorem met_cons (met : ∀ k, k ∈ seen ↔ k ∈ before.map key) (a : α) (k : κ) :
    k ∈ key a :: seen ↔ k ∈ (before ++ [a]).map key := by
  rw [List.mem_cons, met, List.map_append, List.mem_append, List.map_singleton, List.mem_singleton, or_comm]

/-- Nothing new is met with an item that repeats its key. -/
theorem met_known (met : ∀ k, k ∈ seen ↔ k ∈ before.map key) {a : α} (known : key a ∈ seen) (k : κ) :
    k ∈ seen ↔ k ∈ (before ++ [a]).map key := by
  rw [← met_cons met, List.mem_cons]
  exact ⟨.inr, fun either => either.elim (fun same => same ▸ known) id⟩

end Met

/-! ## Leading items -/

theorem leading_sublist (before items : List α) : (leading key before items).Sublist items := by
  have among := (List.filter_sublist (p := fun p => !repeatsKey key before items p)
    (l := items.zipIdx)).map Prod.fst
  rwa [List.zipIdx_map_fst] at among

/-- The keys that items lead with are those of the items that nothing before them has. -/
theorem mem_map_leading {before items : List α} {k : κ} :
    k ∈ (leading key before items).map key ↔ k ∈ items.map key ∧ k ∉ before.map key := by
  induction items generalizing before with
  | nil => simp [leading]
  | cons a rest ih =>
    rw [leading_cons, List.map_cons, List.mem_cons]
    by_cases known : key a ∈ before.map key
    · rw [if_pos known, ih, List.map_append, List.mem_append, not_or, List.map_singleton,
        List.mem_singleton]
      constructor
      · exact fun ⟨among, fresh, _⟩ => ⟨.inr among, fresh⟩
      · rintro ⟨same, fresh⟩
        have other : k ≠ key a := fun here => fresh (here ▸ known)
        exact ⟨same.resolve_left other, fresh, other⟩
    · rw [if_neg known, List.map_cons, List.mem_cons, ih, List.map_append, List.mem_append, not_or,
        List.map_singleton, List.mem_singleton]
      by_cases here : k = key a
      · subst here
        exact iff_of_true (.inl rfl) ⟨.inl rfl, known⟩
      · simp only [here, false_or, not_false_eq_true, and_true]

theorem nodup_map_leading (before items : List α) : ((leading key before items).map key).Nodup := by
  induction items generalizing before with
  | nil => exact List.nodup_nil
  | cons a rest ih =>
    rw [leading_cons]
    split
    · exact ih _
    · rw [List.map_cons, List.nodup_cons, mem_map_leading]
      refine ⟨fun ⟨_, fresh⟩ => fresh ?_, ih _⟩
      exact List.mem_map_of_mem (List.mem_append_right before List.mem_cons_self)

/-- There are leading items wherever there are items. -/
theorem leading_eq_nil_iff {items : List α} : leading key [] items = [] ↔ items = [] := by
  cases items with
  | nil => exact iff_of_true rfl rfl
  | cons a rest =>
    refine iff_of_false (fun none => ?_) nofun
    rw [leading_cons, List.map_nil, if_neg List.not_mem_nil] at none
    cases none

end Keys

end Codebook
