import Codebook.Proofs.Keyed
import Codebook.Proofs.Sheet.Columns
import Codebook.Sheet.Flags

/-!
# The texts of a row

A row of a table is told by its texts and the places where they stand. How many columns it has besides does not
matter: columns behind the last text change neither what is found under a name (`text?_ofTexts`) nor the codes
that are read off the flags (`resolveCodes_ofTexts`).
-/

namespace Codebook

/-- The texts of a row by their places, which are counted from 0. -/
abbrev Texts := Nat → Option String

/-- Whether all texts of a row stand in its first columns. -/
def Texts.Within (texts : Texts) (width : Nat) : Prop :=
  ∀ place, width ≤ place → texts place = none

/-! ## Columns -/

namespace Column

/-- The first columns with their numbers. -/
def numbered (width : Nat) : List (String × Nat) :=
  (List.range width).map fun place => (name (place + 1), place + 1)

theorem name_inj {m n : Nat} (positive : 0 < m) (small : m ≤ greatest) (positive' : 0 < n)
    (small' : n ≤ greatest) (same : name m = name n) : m = n := by
  have first := index_name positive small
  rw [same, index_name positive' small'] at first
  exact (Except.ok.inj first).symm

theorem nodup_names {width : Nat} (small : width ≤ greatest) :
    ((numbered width).map Prod.fst).Nodup := by
  rw [numbered, List.map_map]
  refine List.nodup_range.map_on fun m inside n inside' same => ?_
  rw [List.mem_range] at inside inside'
  exact Nat.succ.inj (name_inj (Nat.succ_pos m) (by omega) (Nat.succ_pos n) (by omega) same)

end Column

/-! ## Rows -/

namespace Row

open Column

/-- The row with the given texts that is `width` columns wide. -/
def ofTexts (width : Nat) (texts : Texts) : Row :=
  (List.range width).map fun place => (name (place + 1), texts place)

theorem map_fst_ofTexts (width : Nat) (texts : Texts) :
    (ofTexts width texts).map Prod.fst = (numbered width).map Prod.fst := by
  rw [ofTexts, numbered, List.map_map, List.map_map]
  rfl

theorem text?_concat_none (row : Row) (column other : String) :
    text? (row ++ [(other, none)]) column = row.text? column := by
  rw [text?, text?, Keyed.get?_append, Keyed.get?_cons]
  cases row.get? column with
  | some text => rfl
  | none => split <;> rfl

/-- Columns behind the last text of a row are as good as none. -/
theorem text?_ofTexts {texts : Texts} {width wider : Nat} (within : texts.Within width)
    (le : width ≤ wider) (column : String) :
    (ofTexts wider texts).text? column = (ofTexts width texts).text? column := by
  induction le with
  | refl => rfl
  | @step wider le ih =>
    have last : ofTexts (wider + 1) texts = ofTexts wider texts ++ [(name (wider + 1), none)] := by
      rw [ofTexts, List.range_succ, List.map_append, List.map_singleton, within wider le]
      rfl
    rw [last, text?_concat_none, ih]

theorem filled?_ofTexts {texts : Texts} {width wider : Nat} (within : texts.Within width)
    (le : width ≤ wider) (column : String) :
    (ofTexts wider texts).filled? column = (ofTexts width texts).filled? column := by
  rw [filled?, filled?, text?_ofTexts within le]

/-- The text at a place is the one in the column with that name. -/
theorem text?_name {width place : Nat} (small : width ≤ greatest) (inside : place < width)
    (texts : Texts) : (ofTexts width texts).text? (name (place + 1)) = texts place := by
  have distinct : ((ofTexts width texts).map Prod.fst).Nodup := by
    rw [map_fst_ofTexts]
    exact nodup_names small
  have member : (name (place + 1), texts place) ∈ ofTexts width texts :=
    List.mem_map_of_mem (List.mem_range.2 inside)
  rw [text?, Keyed.get?_of_mem distinct member]
  rfl

theorem exists_place {width : Nat} {texts : Texts} {column text : String}
    (there : (ofTexts width texts).text? column = some text) : ∃ place, texts place = some text := by
  obtain ⟨value, found, same⟩ := Option.bind_eq_some_iff.1 there
  obtain ⟨place, -, pair⟩ := List.mem_map.1 (Keyed.mem_of_get? found)
  exact ⟨place, (Prod.mk.inj pair).2.trans same⟩

/-- Rows of one width have the columns of that width. -/
theorem numberedColumns_ofTexts {width : Nat} (small : width ≤ greatest) (texts : Texts)
    (others : List Texts) :
    numberedColumns ((texts :: others).map (ofTexts width)) = .ok (numbered width) := by
  have more : others.flatMap (fun t => (ofTexts width t).map Prod.fst) ⊆
      (numbered width).map Prod.fst := by
    intro column member
    obtain ⟨t, -, there⟩ := List.mem_flatMap.1 member
    rwa [map_fst_ofTexts] at there
  have names : columnNames ((texts :: others).map (ofTexts width)) =
      (numbered width).map Prod.fst := by
    rw [columnNames, List.flatMap_map, List.flatMap_cons, map_fst_ofTexts, List.eraseDups_append,
      eraseDups_eq_self (nodup_names small)]
    have none : List.removeAll (others.flatMap fun t => (ofTexts width t).map Prod.fst)
        ((numbered width).map Prod.fst) = [] := by
      refine List.filter_eq_nil_iff.2 fun column member => ?_
      simpa using more member
    rw [none]
    exact List.append_nil _
  have indexed : ((numbered width).map Prod.fst).mapM
      (fun name => (index name).map fun n => (name, n)) = .ok (numbered width) := by
    rw [numbered, List.map_map, List.mapM_map]
    refine Report.mapM_of_forall fun place inside => ?_
    rw [List.mem_range] at inside
    show (index (name (place + 1))).map _ = _
    rw [index_name (Nat.succ_pos place) (by omega)]
    rfl
  have sorted : (numbered width).Pairwise fun a b => decide (a.2 ≤ b.2) = true := by
    refine List.pairwise_map.2 (List.pairwise_lt_range.imp fun less => ?_)
    exact decide_eq_true (Nat.succ_le_succ (Nat.le_of_lt less))
  rw [numberedColumns, names, indexed]
  exact congrArg Except.ok (List.mergeSort_of_pairwise sorted)

theorem text?_of_isBlank {row : Row} (blank : row.isBlank = true) (column : String) :
    row.text? column = none := by
  rw [text?]
  cases found : row.get? column with
  | none => rfl
  | some text =>
    have none := List.all_eq_true.1 blank _ (Keyed.mem_of_get? found)
    rwa [Option.isNone_iff_eq_none] at none

theorem filled?_of_isBlank {row : Row} (blank : row.isBlank = true) (column : String) :
    row.filled? column = none := by
  rw [filled?, text?_of_isBlank blank]
  rfl

end Row

/-! ## Flags -/

theorem filter_range_of_le {p : Nat → Bool} {width wider : Nat} (le : width ≤ wider)
    (none : ∀ place, width ≤ place → p place = false) :
    (List.range wider).filter p = (List.range width).filter p := by
  obtain ⟨more, rfl⟩ := Nat.exists_eq_add_of_le le
  have last : ((List.range more).map (width + ·)).filter p = [] := by
    refine List.filter_eq_nil_iff.2 fun place member => ?_
    obtain ⟨behind, -, rfl⟩ := List.mem_map.1 member
    rw [none _ (Nat.le_add_right ..)]
    exact Bool.false_ne_true
  rw [List.range_add, List.filter_append, last, List.append_nil]

namespace Flags

open Column Row

/-- The codes of a row, read off its texts and those of the labels. -/
def codesIn (width : Nat) (labels texts : Texts) (start : Number) : List String :=
  ((((List.range width).filter fun place => atMost start (place + 1) && isAffirmative (texts place)).map
    fun place => extractCode (labels place)).filter fun code => !code.isEmpty).eraseDups

theorem resolveCodes_eq {width : Nat} (small : width ≤ greatest) (labels texts : Texts) (start : Number) :
    resolveCodes (ofTexts width labels) (ofTexts width texts) start =
      .ok (codesIn width labels texts start) := by
  have columns : numberedColumns [ofTexts width labels, ofTexts width texts] = .ok (numbered width) :=
    numberedColumns_ofTexts small labels [texts]
  have flagged : (numbered width).filter (fun column =>
      atMost start column.2 && isAffirmative ((ofTexts width texts).text? column.1)) =
      ((List.range width).filter fun place =>
        atMost start (place + 1) && isAffirmative (texts place)).map
          fun place => (name (place + 1), place + 1) := by
    rw [numbered, List.filter_map]
    refine congrArg _ (List.filter_congr fun place inside => ?_)
    exact congrArg (fun text => _ && isAffirmative text)
      (text?_name small (List.mem_range.1 inside) texts)
  have codes : (((List.range width).filter fun place =>
      atMost start (place + 1) && isAffirmative (texts place)).map
        fun place => (name (place + 1), place + 1)).map (fun column =>
          extractCode ((ofTexts width labels).text? column.1)) =
      ((List.range width).filter fun place =>
        atMost start (place + 1) && isAffirmative (texts place)).map
          fun place => extractCode (labels place) := by
    rw [List.map_map]
    refine List.map_congr_left fun place member => ?_
    have inside := List.mem_range.1 (List.mem_filter.1 member).1
    exact congrArg extractCode (text?_name small inside labels)
  rw [resolveCodes, columns, codesIn, ← codes, ← flagged]
  rfl

/-- Columns behind the last text of a row have no flag. -/
theorem resolveCodes_ofTexts {labels texts : Texts} {width wider : Nat} (within : texts.Within width)
    (le : width ≤ wider) (small : wider ≤ greatest) (start : Number) :
    resolveCodes (ofTexts wider labels) (ofTexts wider texts) start =
      resolveCodes (ofTexts width labels) (ofTexts width texts) start := by
  rw [resolveCodes_eq small, resolveCodes_eq (Nat.le_trans le small), codesIn, filter_range_of_le le]
  · rfl
  · intro place behind
    rw [within place behind]
    exact Bool.and_false _

end Flags

end Codebook
