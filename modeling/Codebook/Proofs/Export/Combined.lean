import Codebook.Proofs.Export.Assembly
import Mathlib.Algebra.GroupWithZero.Nat

/-!
# Combined tables

The tables of lists are artifacts of their own, or the sheets of one artifact under their titles. A title
is the beginning of the name of the list, so lists with names of their own may have one title, and of these
only the last one is kept. The combined artifact has a sheet for each list exactly if the titles are apart,
and all records exactly if each list that is not kept has none (`combined_iff`).
-/

namespace Codebook

namespace Keyed

/-! ## Items under keys -/

section Total

variable {κ α : Type}

/-- The number of all items under the keys of a keyed list. -/
def total (pairs : Keyed κ (List α)) : Nat :=
  (pairs.flatMap Prod.snd).length

theorem total_cons (p : κ × List α) (rest : Keyed κ (List α)) :
    total (p :: rest) = p.2.length + total rest := by
  rw [total, List.flatMap_cons, List.length_append, total]

theorem total_concat (pairs : Keyed κ (List α)) (p : κ × List α) :
    total (pairs ++ [p]) = total pairs + p.2.length := by
  rw [total, List.flatMap_append, List.length_append, List.flatMap_singleton, total]

end Total

variable {κ α : Type} [DecidableEq κ]

/-- What is put under a key takes the place of what was there. -/
theorem total_put (pairs : Keyed κ (List α)) (key : κ) (items : List α) :
    total (pairs.put key items) + ((pairs.get? key).getD []).length = total pairs + items.length := by
  fun_induction put pairs key items with
  | case1 key items =>
    rw [total_cons]
    exact Nat.add_comm ..
  | case2 p rest key items same =>
    rw [get?_cons, if_pos (beq_iff_eq.1 same), total_cons, total_cons, Option.getD_some]
    show items.length + total rest + p.2.length = p.2.length + total rest + items.length
    omega
  | case3 p rest key items different ih =>
    rw [get?_cons, if_neg fun same => different (beq_iff_eq.2 same), total_cons, total_cons]
    omega

theorem total_ofList_concat (pairs : List (κ × List α)) (p : κ × List α) :
    total (ofList (pairs ++ [p])) + ((get? pairs.reverse p.1).getD []).length =
      total (ofList pairs) + p.2.length := by
  rw [ofList_concat, ← get?_ofList]
  exact total_put ..

theorem total_ofList_le (pairs : List (κ × List α)) : total (ofList pairs) ≤ total pairs := by
  induction pairs using List.reverseRecOn with
  | nil => exact Nat.le_refl _
  | append_singleton pairs p ih =>
    have step := total_ofList_concat pairs p
    rw [total_concat]
    omega

/-- Where no item stands under a key that comes again later, only the last pair with a key has items. -/
theorem get?_reverse_of_pairwise {pairs : List (κ × List α)}
    (lost : pairs.Pairwise fun p q => p.1 = q.1 → p.2 = []) {p : κ × List α} (member : p ∈ pairs) :
    p.2 = [] ∨ get? pairs.reverse p.1 = some p.2 := by
  induction pairs using List.reverseRecOn with
  | nil => cases member
  | append_singleton pairs last ih =>
    obtain ⟨earlier, _, later⟩ := List.pairwise_append.1 lost
    rw [List.reverse_concat, get?_cons]
    rcases List.mem_append.1 member with inside | here
    · by_cases same : last.1 = p.1
      · exact .inl (later p inside last List.mem_cons_self same.symm)
      · rw [if_neg same]
        exact ih earlier inside
    · rw [List.mem_singleton.1 here, if_pos rfl]
      exact .inr rfl

/-- No item is lost exactly if none stands under a key that comes again later. -/
theorem total_ofList_eq_iff {pairs : List (κ × List α)} :
    total (ofList pairs) = total pairs ↔ pairs.Pairwise fun p q => p.1 = q.1 → p.2 = [] := by
  induction pairs using List.reverseRecOn with
  | nil => exact iff_of_true rfl List.Pairwise.nil
  | append_singleton pairs last ih =>
    have step := total_ofList_concat pairs last
    have bound := total_ofList_le pairs
    rw [List.pairwise_append, total_concat, ← ih]
    constructor
    · intro all
      have kept : total (ofList pairs) = total pairs := by omega
      have none : (get? pairs.reverse last.1).getD [] = [] := List.eq_nil_of_length_eq_zero (by omega)
      refine ⟨kept, List.pairwise_singleton .., fun p member q here same => ?_⟩
      rw [List.mem_singleton.1 here] at same
      rcases get?_reverse_of_pairwise (ih.1 kept) member with empty | found
      · exact empty
      · rwa [← same, found] at none
    · rintro ⟨kept, _, later⟩
      have none : (get? pairs.reverse last.1).getD [] = [] := by
        cases found : get? pairs.reverse last.1 with
        | none => rfl
        | some items =>
          have member := List.mem_reverse.1 (mem_of_get? found)
          exact later _ member last List.mem_cons_self rfl
      rw [none] at step
      rw [← kept, ← step]
      rfl

end Keyed

namespace Export

/-! ## Sheets of lists -/

/-- The sheet of a block with its records. -/
def sheetOf (records : Block → List Record) (block : Block) : String × List Record :=
  (sheetTitle block.name, records block)

/-- The artifact of a block with its records. -/
def separateTable (records : Block → List Record) (block : Block) : Artifact :=
  ⟨block.name ++ ".xlsx", .table (some ImportRow.columns) [sheetOf records block]⟩

/-- The artifact with the given sheets. -/
def combinedTable (market : String) (sheets : Keyed String (List Record)) : Artifact :=
  ⟨"ALL_LISTS_" ++ market ++ ".xlsx", .table (some ImportRow.columns) sheets⟩

theorem rowCount_combinedTable (market : String) (sheets : Keyed String (List Record)) :
    (combinedTable market sheets).rowCount = sheets.total := rfl

theorem sum_rowCount_separateTable (records : Block → List Record) (blocks : List Block) :
    (blocks.map fun block => (separateTable records block).rowCount).sum =
      Keyed.total (blocks.map (sheetOf records)) := by
  induction blocks with
  | nil => rfl
  | cons block rest ih =>
    have here : (separateTable records block).rowCount = (records block).length := by
      show ([sheetOf records block].flatMap Prod.snd).length = _
      rw [List.flatMap_singleton]
      rfl
    rw [List.map_cons, List.sum_cons, ih, here, List.map_cons, Keyed.total_cons]
    rfl

/-- Whether combining the tables of blocks gives the given sheets, and when all lists and all records of
them are kept. -/
structure Combines (blocks : List Block) (records : Block → List Record)
    (sheets : Keyed String (List Record)) (market : String) : Prop where
  /-- There is one sheet for each title, in the place of the first list with it and with the records of
  the last one. -/
  collects : sheets.Collects (blocks.map (sheetOf records))
  complete : sheets = blocks.map (sheetOf records) ↔
    (blocks.map fun block => sheetTitle block.name).Nodup
  counted : (combinedTable market sheets).rowCount =
      (blocks.map fun block => (separateTable records block).rowCount).sum ↔
    blocks.Pairwise fun a b => sheetTitle a.name = sheetTitle b.name → records a = []

theorem combines_ofList (blocks : List Block) (records : Block → List Record) (market : String) :
    Combines blocks records (Keyed.ofList (blocks.map (sheetOf records))) market where
  collects := Keyed.collects_ofList _
  complete := by
    have titles : (blocks.map (sheetOf records)).map Prod.fst =
        blocks.map fun block => sheetTitle block.name := by
      rw [List.map_map]
      rfl
    rw [← titles]
    exact ⟨fun same => Keyed.nodup_of_map_fst_ofList (congrArg (List.map Prod.fst) same),
      Keyed.ofList_eq_self⟩
  counted := by
    rw [rowCount_combinedTable, sum_rowCount_separateTable, Keyed.total_ofList_eq_iff,
      List.pairwise_map]
    rfl

/-! ## Bundles -/

/-- Whatever bundle can be assembled can be assembled with the tables apart and with the tables combined;
the combined tables are sheets with the records of those that are apart. All lists are kept exactly if
their titles are apart, and all records exactly if no list has records whose title comes again later. -/
theorem combined_iff {plan : Plan} {known : Keyed String (List ImportRow)} {blocks : List Block}
    {bundle : Bundle} (ok : (assemble plan .ifield known blocks).outcome = .ok bundle) :
    ∃ apart together records sheets,
      (assemble { plan with combined := false } .ifield known blocks).outcome = .ok apart ∧
      (assemble { plan with combined := true } .ifield known blocks).outcome = .ok together ∧
      apart.artifacts =
        (blocks.filter (isTabular plan)).map (separateTable records) ++ captionArtifacts plan ∧
      together.artifacts = combinedTable plan.market sheets :: captionArtifacts plan ∧
      Combines (blocks.filter (isTabular plan)) records sheets plan.market := by
  obtain ⟨rows, read, _⟩ := assemble_ifield_eq_ok_iff.1 ok
  exact ⟨_, _, recordsOf rows, _, assemble_ifield_eq_ok_iff.2 ⟨rows, read, rfl⟩,
    assemble_ifield_eq_ok_iff.2 ⟨rows, read, rfl⟩, rfl, rfl, combines_ofList ..⟩

/-- Blocks with one item each. -/
def soleItems (names : List String) : List Block :=
  names.map fun name => ⟨name, ["_1 \"" ++ name ++ "\""]⟩

/-- The record of the item of such a block. -/
def soleRecord (name : String) : Record :=
  ({ ImportRow.plain name "_1" with position := 1 } : ImportRow).record

/-- Two lists whose titles differ have both their sheets in a combined artifact. -/
theorem combined_iff_differing :
    ∃ bundle, (assemble { separate with combined := true } .ifield []
        (soleItems ["MAIN_BRANDLIST_GB", "DIARY_BRANDLIST_GB"])).outcome = .ok bundle ∧
      bundle.artifacts = [combinedTable "GB"
        [("MAIN_BRANDLIST_GB", [soleRecord "MAIN_BRANDLIST_GB"]),
          ("DIARY_BRANDLIST_GB", [soleRecord "DIARY_BRANDLIST_GB"])]] ∧
      ∃ records sheets, bundle.artifacts = [combinedTable "GB" sheets] ∧
        Combines (soleItems ["MAIN_BRANDLIST_GB", "DIARY_BRANDLIST_GB"]) records sheets "GB" ∧
        sheets = (soleItems ["MAIN_BRANDLIST_GB", "DIARY_BRANDLIST_GB"]).map (sheetOf records) := by
  have made : (assemble { separate with combined := true } .ifield []
        (soleItems ["MAIN_BRANDLIST_GB", "DIARY_BRANDLIST_GB"])).outcome =
      .ok ⟨.ifield, "GB", "Great Britain", [combinedTable "GB"
        [("MAIN_BRANDLIST_GB", [soleRecord "MAIN_BRANDLIST_GB"]),
          ("DIARY_BRANDLIST_GB", [soleRecord "DIARY_BRANDLIST_GB"])]]⟩ := by
    decide +kernel
  obtain ⟨apart, together, records, sheets, _, ok, _, artifacts, combines⟩ := combined_iff made
  cases made.symm.trans ok
  have titles : ((soleItems ["MAIN_BRANDLIST_GB", "DIARY_BRANDLIST_GB"]).map fun block =>
      sheetTitle block.name).Nodup := by decide +kernel
  exact ⟨_, made, rfl, records, sheets, artifacts, combines, combines.complete.2 titles⟩

/-- Of two lists with names of their own whose first 31 characters are the same, a combined artifact has
only the second one, under the title of both. -/
theorem combined_loses_list :
    ((soleItems ["NON_ALCOHOLIC_BEVERAGE_BRANDLIST_A_GB", "NON_ALCOHOLIC_BEVERAGE_BRANDLIST_B_GB"]).map
        Block.name).Nodup ∧
      (assemble separate .ifield [] (soleItems
          ["NON_ALCOHOLIC_BEVERAGE_BRANDLIST_A_GB", "NON_ALCOHOLIC_BEVERAGE_BRANDLIST_B_GB"])).outcome =
        .ok ⟨.ifield, "GB", "Great Britain",
          [⟨"NON_ALCOHOLIC_BEVERAGE_BRANDLIST_A_GB.xlsx", .table (some ImportRow.columns)
              [("NON_ALCOHOLIC_BEVERAGE_BRANDLIS",
                [soleRecord "NON_ALCOHOLIC_BEVERAGE_BRANDLIST_A_GB"])]⟩,
            ⟨"NON_ALCOHOLIC_BEVERAGE_BRANDLIST_B_GB.xlsx", .table (some ImportRow.columns)
              [("NON_ALCOHOLIC_BEVERAGE_BRANDLIS",
                [soleRecord "NON_ALCOHOLIC_BEVERAGE_BRANDLIST_B_GB"])]⟩]⟩ ∧
      (assemble { separate with combined := true } .ifield [] (soleItems
          ["NON_ALCOHOLIC_BEVERAGE_BRANDLIST_A_GB", "NON_ALCOHOLIC_BEVERAGE_BRANDLIST_B_GB"])).outcome =
        .ok ⟨.ifield, "GB", "Great Britain", [combinedTable "GB"
          [("NON_ALCOHOLIC_BEVERAGE_BRANDLIS",
            [soleRecord "NON_ALCOHOLIC_BEVERAGE_BRANDLIST_B_GB"])]]⟩ := by
  decide +kernel

end Export

end Codebook
