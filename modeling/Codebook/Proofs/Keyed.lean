import Codebook.Keyed
import Mathlib.Data.List.Induction
import Mathlib.Data.List.Nodup

/-!
# Values under keys

What is put under a key is found under it, and what is found has been put: putting a list of pairs leaves
the last of the pairs with a key, or else what was there before (`get?_putAll`). The keys of a list of
pairs stand in the order in which they first come (`collects_ofList`).
-/

namespace Codebook

theorem eraseDups_concat {α : Type} [DecidableEq α] (items : List α) (a : α) :
    (items ++ [a]).eraseDups = if a ∈ items then items.eraseDups else items.eraseDups ++ [a] := by
  rw [List.eraseDups_append, List.cons_removeAll]
  by_cases present : a ∈ items
  · rw [if_pos present, List.contains_iff_mem.2 present]
    exact List.append_nil _
  · have absent : items.contains a = false := by simpa using present
    rw [if_neg present, absent]
    rfl

theorem nodup_eraseDups {α : Type} [DecidableEq α] (items : List α) : items.eraseDups.Nodup := by
  induction items using List.reverseRecOn with
  | nil => exact List.nodup_nil
  | append_singleton items a ih =>
    rw [eraseDups_concat]
    split
    · exact ih
    · next fresh =>
      refine List.nodup_append.2 ⟨ih, by simp, fun b member last here => ?_⟩
      rintro rfl
      rw [List.mem_singleton.1 here] at member
      exact fresh (List.mem_eraseDups.1 member)

theorem eraseDups_eq_self {α : Type} [DecidableEq α] {items : List α} (distinct : items.Nodup) :
    items.eraseDups = items := by
  induction items using List.reverseRecOn with
  | nil => rfl
  | append_singleton items a ih =>
    obtain ⟨before, -, apart⟩ := List.nodup_append.1 distinct
    rw [eraseDups_concat, if_neg fun member => apart a member a List.mem_cons_self rfl, ih before]

namespace Keyed

variable {κ α : Type} [DecidableEq κ]

theorem get?_cons (p : κ × α) (rest : Keyed κ α) (key : κ) :
    get? (p :: rest) key = if p.1 = key then some p.2 else get? rest key := by
  rw [get?, List.find?_cons]
  by_cases same : p.1 = key
  · rw [if_pos same, beq_iff_eq.2 same]
    rfl
  · rw [if_neg same, beq_eq_false_iff_ne.2 same]
    rfl

theorem get?_append (pairs more : Keyed κ α) (key : κ) :
    get? (pairs ++ more) key = (pairs.get? key).or (get? more key) := by
  rw [get?, List.find?_append, Option.map_or]
  rfl

theorem has_eq_isSome_get? (pairs : Keyed κ α) (key : κ) : pairs.has key = (pairs.get? key).isSome := by
  rw [get?, Option.isSome_map, Bool.eq_iff_iff, has, List.any_eq_true, List.find?_isSome]

theorem get?_put (pairs : Keyed κ α) (key other : κ) (value : α) :
    (pairs.put key value).get? other = if key = other then some value else pairs.get? other := by
  fun_induction put pairs key value with
  | case1 key value => rw [get?_cons]
  | case2 p rest key value same =>
    obtain rfl : p.1 = key := beq_iff_eq.1 same
    rw [get?_cons, get?_cons]
    split <;> rfl
  | case3 p rest key value different ih =>
    have differs : p.1 ≠ key := fun same => different (beq_iff_eq.2 same)
    rw [get?_cons, get?_cons, ih]
    by_cases here : p.1 = other
    · rw [if_pos here, if_pos here, if_neg fun same => differs (here.trans same.symm)]
    · rw [if_neg here, if_neg here]

theorem get?_putAll (pairs : Keyed κ α) (more : List (κ × α)) (key : κ) :
    (pairs.putAll more).get? key = (get? more.reverse key).or (pairs.get? key) := by
  induction more generalizing pairs with
  | nil => rfl
  | cons p rest ih =>
    rw [List.reverse_cons, get?_append, get?_cons]
    show ((pairs.put p.1 p.2).putAll rest).get? key = _
    rw [ih, get?_put, Option.or_assoc]
    congr 1
    split <;> rfl

/-- Of pairs with one key the last one counts. -/
theorem get?_ofList (pairs : List (κ × α)) (key : κ) :
    (ofList pairs).get? key = get? pairs.reverse key := by
  rw [ofList, get?_putAll]
  exact Option.or_none

theorem get?_map_snd {β : Type} (f : α → β) (pairs : Keyed κ α) (key : κ) :
    get? (pairs.map fun p => (p.1, f p.2)) key = (pairs.get? key).map f := by
  rw [get?, List.find?_map, Option.map_map, get?, Option.map_map]
  rfl

/-- Pairs that are kept for their keys are found under those keys. -/
theorem get?_filter (keep : κ → Bool) (pairs : List (κ × α)) (key : κ) :
    get? (pairs.filter fun p => keep p.1) key = if keep key then get? pairs key else none := by
  induction pairs with
  | nil => exact (ite_self none).symm
  | cons p rest ih =>
    rw [List.filter_cons, get?_cons]
    by_cases same : p.1 = key
    · rw [if_pos same, same]
      cases kept : keep key with
      | true => rw [if_pos rfl, if_pos rfl, get?_cons, if_pos same]
      | false =>
        rw [if_neg Bool.false_ne_true, if_neg Bool.false_ne_true, ih, kept]
        rfl
    · rw [if_neg same, ← ih]
      split
      · rw [get?_cons, if_neg same]
      · rfl

theorem get?_ofList_filter (keep : κ → Bool) (pairs : List (κ × α)) (key : κ) :
    (ofList (pairs.filter fun p => keep p.1)).get? key =
      if keep key then (ofList pairs).get? key else none := by
  rw [get?_ofList, get?_ofList, ← List.filter_reverse, get?_filter]

/-! ## Members -/

theorem mem_of_get? {pairs : Keyed κ α} {key : κ} {value : α} (found : pairs.get? key = some value) :
    (key, value) ∈ pairs := by
  rw [get?, Option.map_eq_some_iff] at found
  obtain ⟨⟨name, here⟩, first, rfl⟩ := found
  have same := List.find?_some first
  obtain rfl : name = key := beq_iff_eq.1 same
  exact List.mem_of_find?_eq_some first

theorem get?_eq_none_iff {pairs : Keyed κ α} {key : κ} :
    pairs.get? key = none ↔ ∀ value, (key, value) ∉ pairs := by
  rw [get?, Option.map_eq_none_iff, List.find?_eq_none]
  constructor
  · intro absent value member
    exact absent _ member (beq_self_eq_true key)
  · rintro absent ⟨name, value⟩ member same
    obtain rfl : name = key := beq_iff_eq.1 same
    exact absent value member

theorem exists_get?_of_has {pairs : Keyed κ α} {key : κ} (has : pairs.has key = true) :
    ∃ value, pairs.get? key = some value := by
  rw [has_eq_isSome_get?] at has
  exact Option.isSome_iff_exists.1 has

theorem mem_put {pairs : Keyed κ α} {key : κ} {value : α} {p : κ × α}
    (member : p ∈ pairs.put key value) : p ∈ pairs ∨ p = (key, value) := by
  fun_induction put pairs key value with
  | case1 => exact .inr (List.mem_singleton.1 member)
  | case2 first rest key value _ =>
    rcases List.mem_cons.1 member with rfl | member
    · exact .inr rfl
    · exact .inl (.tail _ member)
  | case3 first rest key value _ ih =>
    rcases List.mem_cons.1 member with rfl | member
    · exact .inl List.mem_cons_self
    · exact (ih member).imp_left (.tail _)

/-- A pair of a keyed list was put there. -/
theorem mem_putAll {pairs : Keyed κ α} {more : List (κ × α)} {p : κ × α}
    (member : p ∈ pairs.putAll more) : p ∈ pairs ∨ p ∈ more := by
  induction more generalizing pairs with
  | nil => exact .inl member
  | cons first rest ih =>
    rcases @ih (pairs.put first.1 first.2) member with before | among
    · rcases mem_put before with inside | rfl
      · exact .inl inside
      · exact .inr List.mem_cons_self
    · exact .inr (.tail _ among)

theorem mem_ofList {pairs : List (κ × α)} {p : κ × α} (member : p ∈ ofList pairs) : p ∈ pairs := by
  rcases mem_putAll member with before | among
  · cases before
  · exact among

/-! ## Keys -/

theorem map_fst_put (pairs : Keyed κ α) (key : κ) (value : α) :
    (pairs.put key value).map Prod.fst =
      if key ∈ pairs.map Prod.fst then pairs.map Prod.fst else pairs.map Prod.fst ++ [key] := by
  fun_induction put pairs key value with
  | case1 key value => rfl
  | case2 p rest key value same =>
    obtain rfl : p.1 = key := beq_iff_eq.1 same
    rw [List.map_cons, List.map_cons, if_pos List.mem_cons_self]
  | case3 p rest key value different ih =>
    have differs : key ≠ p.1 := fun same => different (beq_iff_eq.2 same.symm)
    rw [List.map_cons, ih, List.map_cons]
    by_cases present : key ∈ rest.map Prod.fst
    · rw [if_pos present, if_pos (.tail _ present)]
    · rw [if_neg present, if_neg (by simpa [differs] using present), List.cons_append]

/-- A key that is not there yet comes last. -/
theorem put_of_not_mem {pairs : Keyed κ α} {key : κ} (fresh : key ∉ pairs.map Prod.fst) (value : α) :
    pairs.put key value = pairs ++ [(key, value)] := by
  fun_induction put pairs key value with
  | case1 => rfl
  | case2 p rest key value same =>
    exact absurd (List.mem_map.2 ⟨p, List.mem_cons_self, beq_iff_eq.1 same⟩) fresh
  | case3 p rest key value _ ih =>
    rw [ih fun known => fresh (.tail _ known), List.cons_append]

theorem ofList_concat (pairs : List (κ × α)) (p : κ × α) :
    ofList (pairs ++ [p]) = (ofList pairs).put p.1 p.2 := by
  rw [ofList, putAll, List.foldl_append]
  rfl

/-- The keys of pairs stand in the order in which they first come. -/
theorem map_fst_ofList (pairs : List (κ × α)) :
    (ofList pairs).map Prod.fst = (pairs.map Prod.fst).eraseDups := by
  induction pairs using List.reverseRecOn with
  | nil => rfl
  | append_singleton pairs p ih =>
    rw [ofList_concat, map_fst_put, ih, List.map_append, List.map_singleton, eraseDups_concat]
    simp only [List.mem_eraseDups]

/-- Pairs with keys of their own are kept as they are. -/
theorem ofList_eq_self {pairs : List (κ × α)} (distinct : (pairs.map Prod.fst).Nodup) :
    ofList pairs = pairs := by
  induction pairs using List.reverseRecOn with
  | nil => rfl
  | append_singleton pairs p ih =>
    rw [List.map_append, List.nodup_append] at distinct
    have fresh : p.1 ∉ pairs.map Prod.fst := fun known =>
      distinct.2.2 p.1 known p.1 List.mem_cons_self rfl
    rw [ofList_concat, ih distinct.1, put_of_not_mem fresh]

/-- Pairs of which each has kept a place of its own have keys of their own. -/
theorem nodup_of_map_fst_ofList {pairs : List (κ × α)}
    (all : (ofList pairs).map Prod.fst = pairs.map Prod.fst) : (pairs.map Prod.fst).Nodup := by
  rw [map_fst_ofList] at all
  rw [← all]
  exact nodup_eraseDups _

theorem nodup_ofList (pairs : List (κ × α)) : ((ofList pairs).map Prod.fst).Nodup := by
  rw [map_fst_ofList]
  exact nodup_eraseDups _

theorem has_ofList (pairs : List (κ × α)) (key : κ) : (ofList pairs).has key = has pairs key := by
  have keys (all : Keyed κ α) : all.has key = true ↔ key ∈ all.map Prod.fst := by
    rw [has, List.any_eq_true, List.mem_map]
    simp only [beq_iff_eq]
  rw [Bool.eq_iff_iff, keys, map_fst_ofList, List.mem_eraseDups, ← keys]

/-- Among items with keys of their own, each is the one that is found under its key. -/
theorem find?_of_nodup {key : α → κ} {items : List α} (distinct : (items.map key).Nodup) {a : α}
    (member : a ∈ items) : (items.find? fun b => key b == key a) = some a := by
  induction items with
  | nil => cases member
  | cons first rest ih =>
    rw [List.map_cons, List.nodup_cons] at distinct
    rcases List.mem_cons.1 member with rfl | member
    · rw [List.find?_cons, beq_self_eq_true]
    · have different : (key first == key a) = false :=
        beq_eq_false_iff_ne.2 fun same => distinct.1 (same ▸ List.mem_map_of_mem member)
      rw [List.find?_cons, different]
      exact ih distinct.2 member

theorem get?_of_mem {pairs : Keyed κ α} (distinct : (pairs.map Prod.fst).Nodup) {p : κ × α}
    (member : p ∈ pairs) : pairs.get? p.1 = some p.2 := by
  rw [get?, find?_of_nodup distinct member]
  rfl

/-- Among pairs with keys of their own, their order does not matter. -/
theorem get?_of_perm {pairs other : Keyed κ α} (perm : pairs.Perm other)
    (distinct : (pairs.map Prod.fst).Nodup) (key : κ) : pairs.get? key = other.get? key := by
  cases found : pairs.get? key with
  | none =>
    refine (get?_eq_none_iff.2 fun value member => ?_).symm
    exact get?_eq_none_iff.1 found value (perm.mem_iff.2 member)
  | some value =>
    have member := perm.mem_iff.1 (mem_of_get? found)
    exact (get?_of_mem ((perm.map Prod.fst).nodup_iff.1 distinct) member).symm

theorem get?_reverse {pairs : Keyed κ α} (distinct : (pairs.map Prod.fst).Nodup) (key : κ) :
    get? pairs.reverse key = pairs.get? key :=
  (get?_of_perm (List.reverse_perm pairs).symm distinct key).symm

/-- Whether a keyed list is what pairs come to that are put one after the other: it has each of their
keys once, in the order in which the keys first come, with the last value given to it. -/
structure Collects (all : Keyed κ α) (pairs : List (κ × α)) : Prop where
  keys : all.map Prod.fst = (pairs.map Prod.fst).eraseDups
  values : ∀ key, all.get? key = get? pairs.reverse key

theorem collects_ofList (pairs : List (κ × α)) : (ofList pairs).Collects pairs where
  keys := map_fst_ofList pairs
  values := get?_ofList pairs

end Keyed

end Codebook
