import Codebook.Proofs.Keyed
import Codebook.Proofs.Sheet.Columns
import Codebook.Proofs.Sorting
import Codebook.Sheet.Flags
import Mathlib

/-!
# Codes that a row is flagged for

A row has a code exactly if a column from a given one on is marked in it and labelled with the code. Codes stand
in the order of the first such columns, and the columns in that of their numbers, so the order in which the cells of
the two rows are given leaves no trace (`resolveCodes_resolved`).
-/

namespace Codebook

open Text

namespace Column

/-! ## Names of columns -/

/-- Whether a text is made of one, two or three capital letters. -/
def IsLettered (text : String) : Prop :=
  text.toList ≠ [] ∧ text.toList.length ≤ 3 ∧ ∀ c ∈ text.toList, 'A' ≤ c ∧ c ≤ 'Z'

instance : DecidablePred IsLettered := fun text =>
  -- The letters of the text are looked at, not all characters there are.
  have : Decidable (∀ c ∈ text.toList, 'A' ≤ c ∧ c ≤ 'Z') := List.decidableBAll _ _
  inferInstanceAs (Decidable (text.toList ≠ [] ∧ text.toList.length ≤ 3 ∧ _))

theorem exists_capital {c : Char} (letter : 'A' ≤ c ∧ c ≤ 'Z') : ∃ place < 26, capital place = c := by
  have low : 65 ≤ c.toNat := UInt32.le_iff_toNat_le.1 (Char.le_def.1 letter.1)
  have high : c.toNat ≤ 90 := UInt32.le_iff_toNat_le.1 (Char.le_def.1 letter.2)
  refine ⟨c.toNat - 65, by omega, ?_⟩
  have whole : 'A'.toNat + (c.toNat - 65) = c.toNat := by
    show 65 + (c.toNat - 65) = c.toNat
    omega
  rw [capital, whole, Char.ofNat_toNat]

/-- Capital letters are those of a number. -/
theorem exists_letters {chars : List Char} (lettered : ∀ c ∈ chars, 'A' ≤ c ∧ c ≤ 'Z') :
    ∃ n ≤ lastOf chars.length, letters n = chars := by
  induction chars using List.reverseRecOn with
  | nil => exact ⟨0, Nat.le_refl 0, letters_zero⟩
  | append_singleton front c ih =>
    obtain ⟨m, small, front_eq⟩ := ih fun c member => lettered c (List.mem_append_left _ member)
    obtain ⟨place, inside, rfl⟩ := exists_capital (lettered c (List.mem_append_right front List.mem_cons_self))
    refine ⟨26 * m + (place + 1), ?_, ?_⟩
    · rw [List.length_append, List.length_singleton, lastOf]
      omega
    · have before : (26 * m + (place + 1) - 1) / 26 = m := by omega
      have last : (26 * m + (place + 1) - 1) % 26 = place := by omega
      rw [letters_pos (by omega), before, last, front_eq]

theorem lastOf_mono {k m : Nat} (le : k ≤ m) : lastOf k ≤ lastOf m := by
  induction le with
  | refl => exact Nat.le_refl _
  | step _ ih =>
    rw [lastOf]
    omega

/-- One to three capital letters are the name of a column. -/
theorem exists_name {text : String} (lettered : IsLettered text) :
    ∃ n, 0 < n ∧ n ≤ greatest ∧ name n = text := by
  obtain ⟨nonempty, short, capitals⟩ := lettered
  obtain ⟨n, small, same⟩ := exists_letters capitals
  refine ⟨n, Nat.pos_of_ne_zero fun zero => nonempty ?_, Nat.le_trans small (lastOf_mono short), ?_⟩
  · rw [← same, zero, letters_zero]
  · rw [name, same, String.ofList_toList]

end Column

namespace Row

open Column

/-! ## Columns in order -/

/-- Whether the cells of a row stand in columns of their own that are named by capital letters. -/
structure IsLettered (row : Row) : Prop where
  names : ∀ cell ∈ row, Column.IsLettered cell.1
  distinct : (row.map Prod.fst).Nodup

instance (row : Row) : Decidable row.IsLettered :=
  decidable_of_iff ((∀ cell ∈ row, Column.IsLettered cell.1) ∧ (row.map Prod.fst).Nodup)
    ⟨fun ⟨names, distinct⟩ => ⟨names, distinct⟩, fun row => ⟨row.names, row.distinct⟩⟩

theorem IsLettered.of_perm {row other : Row} (lettered : row.IsLettered) (perm : row.Perm other) :
    other.IsLettered :=
  ⟨fun cell member => lettered.names cell (perm.mem_iff.2 member),
    (perm.map Prod.fst).nodup_iff.1 lettered.distinct⟩

theorem mem_columnNames {rows : List Row} {column : String} :
    column ∈ columnNames rows ↔ ∃ row ∈ rows, ∃ cell ∈ row, cell.1 = column := by
  simp only [columnNames, List.mem_eraseDups, List.mem_flatMap, List.mem_map]

theorem mem_columnNames_of_text? {rows : List Row} {row : Row} (member : row ∈ rows) {column text : String}
    (there : row.text? column = some text) : column ∈ columnNames rows := by
  obtain ⟨value, found, -⟩ := Option.bind_eq_some_iff.1 there
  exact mem_columnNames.2 ⟨row, member, _, Keyed.mem_of_get? found, rfl⟩

/-- The columns of rows are those of their cells, in the order of their numbers. -/
theorem numberedColumns_of_isLettered {rows : List Row} (lettered : ∀ row ∈ rows, row.IsLettered) :
    ∃ numbers : List Nat, numberedColumns rows = .ok (numbers.map fun n => (name n, n)) ∧
      numbers.Pairwise (· < ·) ∧ ∀ n, n ∈ numbers ↔ 0 < n ∧ n ≤ greatest ∧ name n ∈ columnNames rows := by
  let numberOf (s : String) : Nat := (index s).toOption.getD 0
  have numberOf_name {n : Nat} (positive : 0 < n) (small : n ≤ greatest) : numberOf (name n) = n := by
    show (index (name n)).toOption.getD 0 = n
    rw [index_name positive small]
    rfl
  have each : ∀ s ∈ columnNames rows, ∃ n, 0 < n ∧ n ≤ greatest ∧ name n = s := by
    intro s member
    obtain ⟨row, among, cell, inside, rfl⟩ := mem_columnNames.1 member
    exact exists_name ((lettered row among).names cell inside)
  have name_numberOf : ∀ s ∈ columnNames rows, name (numberOf s) = s := by
    intro s member
    obtain ⟨n, positive, small, rfl⟩ := each s member
    rw [numberOf_name positive small]
  have indexed : (columnNames rows).mapM (fun s => (index s).map fun n => (s, n)) =
      .ok (((columnNames rows).map numberOf).map fun n => (name n, n)) := by
    rw [List.map_map]
    refine Report.mapM_of_forall fun s member => ?_
    obtain ⟨n, positive, small, rfl⟩ := each s member
    rw [index_name positive small, Function.comp_apply, numberOf_name positive small]
    rfl
  refine ⟨((columnNames rows).map numberOf).mergeSort fun a b => a ≤ b, ?_, ?_, fun n => ?_⟩
  · rw [numberedColumns, indexed]
    refine congrArg Except.ok (List.map_mergeSort ?_).symm
    exact fun _ _ _ _ => rfl
  · have apart : ((columnNames rows).map numberOf).Nodup := by
      refine (nodup_eraseDups _).map_on fun s member t among same => ?_
      rw [← name_numberOf s member, same, name_numberOf t among]
    have distinct := (List.mergeSort_perm _ fun a b => decide (a ≤ b)).nodup_iff.2 apart
    exact ((pairwise_sorted id _).and distinct).imp fun both => Nat.lt_of_le_of_ne both.1 both.2
  · rw [List.mem_mergeSort, List.mem_map]
    constructor
    · rintro ⟨s, member, rfl⟩
      obtain ⟨n, positive, small, rfl⟩ := each s member
      rw [numberOf_name positive small]
      exact ⟨positive, small, member⟩
    · rintro ⟨positive, small, member⟩
      exact ⟨name n, member, numberOf_name positive small⟩

end Row

namespace Flags

/-! ## Codes of labels -/

/-- Whether characters are the first decimal digits that stand in a row, all of them. -/
def IsFirstRun (chars run : List Char) : Prop :=
  ∃ before after, chars = before ++ run ++ after ∧ run ≠ [] ∧ (∀ c ∈ before, isDecimal c = false) ∧
    (∀ c ∈ run, isDecimal c = true) ∧ ∀ c ∈ after.head?, isDecimal c = false

theorem isFirstRun_iff {chars run : List Char} :
    IsFirstRun chars run ↔ run ≠ [] ∧ (chars.dropWhile fun c => !isDecimal c).takeWhile isDecimal = run := by
  constructor
  · rintro ⟨before, after, rfl, nonempty, others, digits, ends⟩
    refine ⟨nonempty, ?_⟩
    obtain ⟨first, rest, rfl⟩ := List.exists_cons_of_ne_nil nonempty
    have none : after.takeWhile isDecimal = [] := by
      cases after with
      | nil => rfl
      | cons c _ => rw [List.takeWhile_cons, ends c rfl, if_neg Bool.false_ne_true]
    have digit : (!isDecimal first) = false := by rw [digits first List.mem_cons_self, Bool.not_true]
    rw [List.append_assoc, List.dropWhile_append_of_pos fun c member => by rw [others c member, Bool.not_false],
      List.cons_append, List.dropWhile_cons_of_neg (by rw [digit]; exact Bool.false_ne_true), ← List.cons_append,
      List.takeWhile_append_of_pos digits, none, List.append_nil]
  · rintro ⟨nonempty, rfl⟩
    refine ⟨chars.takeWhile fun c => !isDecimal c, (chars.dropWhile fun c => !isDecimal c).dropWhile isDecimal, ?_,
      nonempty, fun c member => ?_, fun c => List.mem_takeWhile_imp, fun c first => ?_⟩
    · rw [List.append_assoc, List.takeWhile_append_dropWhile, List.takeWhile_append_dropWhile]
    · rw [← Bool.not_eq_true', List.mem_takeWhile_imp member]
    · have stops := List.head?_dropWhile_not isDecimal (chars.dropWhile fun c => !isDecimal c)
      rwa [Option.mem_def.1 first] at stops

theorem IsFirstRun.ne_nil {chars run : List Char} (first : IsFirstRun chars run) : run ≠ [] :=
  (isFirstRun_iff.1 first).1

/-- The code of a label is the first run of digits in it, and empty only if there is none. -/
theorem extractCode_eq_iff {label : Option String} {code : String} (nonempty : code ≠ "") :
    extractCode label = code ↔ ∃ text, label = some text ∧ IsFirstRun text.toList code.toList := by
  have chars : code.toList ≠ [] := fun none => nonempty (String.toList_eq_nil_iff.1 none)
  cases label with
  | none =>
    refine iff_of_false (fun same => nonempty same.symm) ?_
    rintro ⟨text, absent, _⟩
    cases absent
  | some text =>
    simp only [Option.some.injEq, exists_eq_left', isFirstRun_iff, ne_eq, chars, not_false_eq_true, true_and]
    rw [extractCode, Option.getD_some, ← String.toList_inj, String.toList_ofList]

/-! ## Codes of rows -/

theorem atMost_whole {start : Int} {n : Nat} : atMost (.whole start) n = true ↔ start ≤ n := by
  rw [atMost, Number.below, Number.toInt?, Bool.or_eq_true, decide_eq_true_eq, beq_iff_eq, Option.some.injEq]
  omega

theorem isAffirmative_iff {text : Option String} :
    isAffirmative text = true ↔ ∃ t, text = some t ∧ lower t = "yes" := by
  cases text with
  | none => exact iff_of_false Bool.false_ne_true fun ⟨_, absent, _⟩ => nomatch absent
  | some t => simp [isAffirmative]

/-- Whether a row is flagged for a code in the column with a number from `start` on: the row has the word "yes"
there, in any case, and the label of the column has the code as its first run of digits. -/
structure IsFlagged (labels row : Row) (start : Int) (code : String) (n : Nat) : Prop where
  positive : 0 < n
  named : n ≤ Column.greatest
  reached : start ≤ n
  marked : ∃ text, row.text? (Column.name n) = some text ∧ lower text = "yes"
  labelled : ∃ label, labels.text? (Column.name n) = some label ∧ IsFirstRun label.toList code.toList

/-- Whether codes are those that a row is flagged for, each once, in the order of the first columns where it is
flagged for them. -/
structure Resolved (labels row : Row) (start : Int) (codes : List String) : Prop where
  distinct : codes.Nodup
  flagged : ∀ code, code ∈ codes ↔ ∃ n, IsFlagged labels row start code n
  ordered : codes.Pairwise fun a b => ∃ i j, IsLeast {n | IsFlagged labels row start a n} i ∧
    IsLeast {n | IsFlagged labels row start b n} j ∧ i < j

/-! ### Codes of columns in order -/

theorem exists_isLeast {p : Nat → Prop} {n : Nat} (holds : p n) : ∃ i, IsLeast {n | p n} i := by
  classical
  exact ⟨Nat.find ⟨n, holds⟩, Nat.find_spec ⟨n, holds⟩, fun _ => Nat.find_min' ⟨n, holds⟩⟩

/-- Values of items that are in order come in the order of the first items that have them. -/
theorem pairwise_eraseDups_map {α β : Type} [DecidableEq β] {lt : α → α → Prop} {f : α → β} {items : List α}
    (ordered : items.Pairwise lt) :
    (items.map f).eraseDups.Pairwise fun b c => ∃ x ∈ items, f x = b ∧ ∀ y ∈ items, f y = c → lt x y := by
  induction items using List.reverseRecOn with
  | nil => exact .nil
  | append_singleton items z ih =>
    obtain ⟨before, -, last⟩ := List.pairwise_append.1 ordered
    have still : (items.map f).eraseDups.Pairwise fun b c =>
        ∃ x ∈ items ++ [z], f x = b ∧ ∀ y ∈ items ++ [z], f y = c → lt x y := by
      refine (ih before).imp fun {b c} ⟨x, member, value, first⟩ => ?_
      refine ⟨x, List.mem_append_left _ member, value, fun y among same => ?_⟩
      rcases List.mem_append.1 among with among | here
      · exact first y among same
      · exact last x member y here
    rw [List.map_append, List.map_singleton, eraseDups_concat]
    split
    · exact still
    · next fresh =>
      refine List.pairwise_append.2 ⟨still, List.pairwise_singleton .., fun b known c here => ?_⟩
      obtain ⟨x, member, value⟩ := List.mem_map.1 (List.mem_eraseDups.1 known)
      refine ⟨x, List.mem_append_left _ member, value, fun y among same => ?_⟩
      rcases List.mem_append.1 among with among | there
      · exact absurd (List.mem_map.2 ⟨y, among, same.trans (List.mem_singleton.1 here)⟩) fresh
      · exact last x member y there

section Lettered

variable {labels row : Row} (letteredLabels : labels.IsLettered) (lettered : row.IsLettered) (start : Int)
include letteredLabels lettered

/-- The columns that flag a row for some code are found in the order of their numbers. -/
theorem exists_columns : ∃ columns : List Nat,
    resolveCodes labels row (.whole start) =
        .ok (columns.map fun n => extractCode (labels.text? (Column.name n))).eraseDups ∧
      columns.Pairwise (· < ·) ∧
      ∀ code n, IsFlagged labels row start code n ↔
        n ∈ columns ∧ extractCode (labels.text? (Column.name n)) = code := by
  obtain ⟨numbers, numbered, ordered, members⟩ := Row.numberedColumns_of_isLettered
    (List.forall_mem_cons.2 ⟨letteredLabels, List.forall_mem_singleton.2 lettered⟩)
  refine ⟨(numbers.filter fun n => atMost (.whole start) n && isAffirmative (row.text? (Column.name n))).filter
    fun n => !(extractCode (labels.text? (Column.name n))).isEmpty, ?_, (ordered.filter _).filter _,
    fun code n => ?_⟩
  · rw [resolveCodes, numbered]
    show Except.ok (List.filter _ (List.map _ (List.filter _ (List.map _ _)))).eraseDups = _
    rw [List.filter_map, List.filter_map, List.filter_map, List.map_map]
    rfl
  · rw [List.mem_filter, List.mem_filter, members, Bool.and_eq_true, atMost_whole, isAffirmative_iff,
      Bool.not_eq_true', String.isEmpty_eq_false_iff]
    constructor
    · rintro ⟨positive, small, reached, ⟨text, there, yes⟩, ⟨label, here, first⟩⟩
      have nonempty : code ≠ "" := fun empty => first.ne_nil (empty ▸ rfl)
      have same := (extractCode_eq_iff nonempty).2 ⟨label, here, first⟩
      exact ⟨⟨⟨⟨positive, small, Row.mem_columnNames_of_text? (.tail _ List.mem_cons_self) there⟩, reached,
        text, there, yes⟩, same ▸ nonempty⟩, same⟩
    · rintro ⟨⟨⟨⟨positive, small, -⟩, reached, marked⟩, nonempty⟩, rfl⟩
      exact ⟨positive, small, reached, marked, (extractCode_eq_iff nonempty).1 rfl⟩

theorem exists_resolved : ∃ codes, resolveCodes labels row (.whole start) = .ok codes ∧
    Resolved labels row start codes := by
  obtain ⟨columns, resolved, ordered, flagged⟩ := exists_columns letteredLabels lettered start
  refine ⟨_, resolved, nodup_eraseDups _, fun code => ?_, ?_⟩
  · simp only [List.mem_eraseDups, List.mem_map, flagged]
  · have known : ∀ code ∈ (columns.map fun n => extractCode (labels.text? (Column.name n))).eraseDups,
        ∃ i, IsLeast {n | IsFlagged labels row start code n} i := by
      intro code member
      obtain ⟨n, among, value⟩ := List.mem_map.1 (List.mem_eraseDups.1 member)
      exact exists_isLeast ((flagged code n).2 ⟨among, value⟩)
    refine (pairwise_eraseDups_map ordered).imp_of_mem fun {a b} left right ⟨n, member, value, first⟩ => ?_
    obtain ⟨i, least⟩ := known a left
    obtain ⟨j, next⟩ := known b right
    obtain ⟨among, same⟩ := (flagged b j).1 next.1
    exact ⟨i, j, least, next, Nat.lt_of_le_of_lt (least.2 ((flagged a n).2 ⟨member, value⟩)) (first j among same)⟩

omit letteredLabels lettered in
/-- There is but one such list of codes. -/
theorem Resolved.unique {codes others : List String} (first : Resolved labels row start codes)
    (second : Resolved labels row start others) : codes = others := by
  refine List.Perm.eq_of_pairwise ?_ first.ordered second.ordered
    ((List.perm_ext_iff_of_nodup first.distinct second.distinct).2 fun code => ?_)
  · rintro a b - - ⟨i, j, least, next, less⟩ ⟨j', i', next', least', less'⟩
    rw [least.unique least', next.unique next'] at less
    exact absurd less' (Nat.lt_asymm less)
  · rw [first.flagged, second.flagged]

theorem isFlagged_of_perm {labels' row' : Row} (permLabels : labels.Perm labels') (perm : row.Perm row')
    (code : String) (n : Nat) :
    IsFlagged labels' row' start code n ↔ IsFlagged labels row start code n := by
  have texts (column : String) : row'.text? column = row.text? column := by
    rw [Row.text?, Row.text?, Keyed.get?_of_perm perm lettered.distinct]
  have shown (column : String) : labels'.text? column = labels.text? column := by
    rw [Row.text?, Row.text?, Keyed.get?_of_perm permLabels letteredLabels.distinct]
  constructor
  · rintro ⟨positive, small, reached, marked, labelled⟩
    exact ⟨positive, small, reached, texts _ ▸ marked, shown _ ▸ labelled⟩
  · rintro ⟨positive, small, reached, marked, labelled⟩
    exact ⟨positive, small, reached, texts _ ▸ marked, shown _ ▸ labelled⟩

/-- The codes that a row is flagged for are found, each once and in the order of the first columns with them, and
this is but one list. The order in which the cells of the row and of the labels come does not matter. -/
theorem resolveCodes_resolved : ∃ codes, resolveCodes labels row (.whole start) = .ok codes ∧
    Resolved labels row start codes ∧ (∀ others, Resolved labels row start others → others = codes) ∧
    ∀ labels' row', labels.Perm labels' → row.Perm row' →
      resolveCodes labels' row' (.whole start) = .ok codes := by
  obtain ⟨codes, made, resolved⟩ := exists_resolved letteredLabels lettered start
  refine ⟨codes, made, resolved, fun others also => also.unique start resolved,
    fun labels' row' permLabels perm => ?_⟩
  obtain ⟨others, made', resolved'⟩ :=
    exists_resolved (letteredLabels.of_perm permLabels) (lettered.of_perm perm) start
  have flagged : IsFlagged labels' row' start = IsFlagged labels row start := by
    funext code n
    exact propext (isFlagged_of_perm letteredLabels lettered start permLabels perm code n)
  have same : others = codes := by
    refine Resolved.unique start ?_ resolved
    exact ⟨resolved'.distinct, flagged ▸ resolved'.flagged, flagged ▸ resolved'.ordered⟩
  rw [made', same]

end Lettered

/-- Labels of flag columns, given in the order of their names as texts. -/
def flagLabels : Row :=
  [("A", some "Brand"), ("AA", some "Cider 1101"), ("AB", some "Beer 720"), ("C", some "Cola 12"),
    ("Z", some "720 - Beer 9")]

/-- The flags of a brand. -/
def brandFlags : Row :=
  [("AC", some "yes"), ("AB", some "yes"), ("AA", some "Yes"), ("Z", some "YES"), ("C", some "yes "), ("D", none)]

/-- Column `Z` comes before `AA`, and its code stands there although `AB` has it too. -/
theorem resolveCodes_resolved_brandFlags :
    (flagLabels.IsLettered ∧ brandFlags.IsLettered) ∧
      Resolved flagLabels brandFlags 3 ["720", "1101"] ∧
      resolveCodes flagLabels.reverse brandFlags.reverse (.whole 3) = .ok ["720", "1101"] := by
  have labels : flagLabels.IsLettered := by decide +kernel
  have row : brandFlags.IsLettered := by decide +kernel
  obtain ⟨codes, made, resolved, -, moved⟩ := resolveCodes_resolved labels row 3
  have value : resolveCodes flagLabels brandFlags (.whole 3) = .ok ["720", "1101"] := by cbv
  obtain rfl := Except.ok.inj (made.symm.trans value)
  exact ⟨⟨labels, row⟩, resolved, moved _ _ (List.reverse_perm _).symm (List.reverse_perm _).symm⟩

end Flags

end Codebook
