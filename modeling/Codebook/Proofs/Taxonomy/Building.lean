import Codebook.Proofs.ImportRow.Placing
import Codebook.Proofs.Keyed
import Codebook.Proofs.Sheet.Columns
import Codebook.Taxonomy.Building
import Mathlib.Data.List.Induction

/-!
# What the taxonomy is made of

Building fails only where a column of the container table has no number or the code of a header is made
of digits and is no number; otherwise the taxonomy is `taxonomyOf` (`build_eq_ok_iff`): the candidates
that are kept, the local ones apart, the others grouped by their headers, and the groups in the order of
their keys.
-/

namespace Codebook.Taxonomy

open ImportRow Text

/-! ## Containers -/

/-- Whether the columns of the labels of a table have numbers. -/
def HasNumberedColumns (table : List Row) : Prop :=
  ∀ labels ∈ table.head?, ∀ cell ∈ labels, ∃ n, Column.index cell.1 = .ok n

theorem hasNumberedColumns_load {workbook : Workbook} {sheet : String} {offset : Number}
    {table : List Row} (ok : Table.load workbook sheet offset = .ok table) :
    HasNumberedColumns table := by
  intro labels first cell among
  exact Table.index_of_mem_load ok (List.mem_of_head? first) among

theorem orderedColumns_ok {labels : Row} (numbered : ∀ cell ∈ labels, ∃ n, Column.index cell.1 = .ok n) :
    ∃ columns, Row.orderedColumns [labels] = .ok columns := by
  obtain ⟨columns, ok⟩ := Row.exists_numberedColumns (List.forall_mem_singleton.2 numbered)
  exact ⟨_, by rw [Row.orderedColumns, ok]; rfl⟩

/-- The containers of each code are found in a table whose columns have numbers. -/
theorem containerCodes_ok {table : List Row} (numbered : HasNumberedColumns table) (code : String) :
    ∃ codes, containerCodes table code = .ok codes := by
  cases table with
  | nil => exact ⟨[], rfl⟩
  | cons labels rows =>
    obtain ⟨columns, ordered⟩ := orderedColumns_ok (numbered labels rfl)
    have flagged : ∃ column, flagColumn? labels code = .ok column :=
      ⟨_, by rw [flagColumn?, ordered]; rfl⟩
    obtain ⟨column, found⟩ := flagged
    rw [containerCodes, found]
    cases column <;> exact ⟨_, rfl⟩

/-- A container of a code is the text of a row in the column of the containers. -/
theorem mem_containerCodes {table : List Row} {code : String} {codes : List String}
    (ok : containerCodes table code = .ok codes) {container : String} (member : container ∈ codes) :
    ∃ row ∈ table.drop 1, ∃ text ∈ row.filled? containerColumn, trim text = container := by
  cases table with
  | nil =>
    cases ok
    cases member
  | cons labels rows =>
    rw [containerCodes] at ok
    cases found : flagColumn? labels code with
    | error e =>
      rw [found] at ok
      cases ok
    | ok column =>
      rw [found] at ok
      cases column with
      | none =>
        cases ok
        cases member
      | some column =>
        cases ok
        obtain ⟨row, flagged, text⟩ := List.mem_filterMap.1 (List.mem_eraseDups.1 member)
        obtain ⟨text, filled, same⟩ := Option.map_eq_some_iff.1 text
        exact ⟨row, (List.mem_filter.1 flagged).1, text, filled, same⟩

/-! ## Candidates -/

/-- The candidates of a category table. -/
def candidates (source : Source) (table : List Row) : List Candidate :=
  (table.drop 1).filterMap (candidate? source.marker)

/-- A candidate that is kept, with the code of its header. -/
def headed? (c : Candidate) : Option (Candidate × String) :=
  match verdict c with
  | .kept header => some (c, header)
  | _ => none

/-- The category of a candidate with the given header and containers, and the label of the header. -/
def categoryOf (c : Candidate) (header : String) (codes : List String) : Category × String :=
  (⟨c.code, c.label, some header, codes⟩, c.headerLabel.getD "")

/-- The categories of the candidates that are kept. -/
def keptOf (containers : List Row) (found : List Candidate) : List (Category × String) :=
  (found.filterMap headed?).map fun (c, header) =>
    categoryOf c header ((containerCodes containers c.code).toOption.getD [])

theorem headed?_eq_some_iff {c : Candidate} {entry : Candidate × String} :
    headed? c = some entry ↔ verdict c = .kept entry.2 ∧ entry.1 = c := by
  rcases entry with ⟨other, header⟩
  unfold headed?
  cases verdict c <;> simp [and_comm, eq_comm]

theorem mem_filterMap_headed?_iff {found : List Candidate} {c : Candidate} {header : String} :
    (c, header) ∈ found.filterMap headed? ↔ c ∈ found ∧ verdict c = .kept header := by
  rw [List.mem_filterMap]
  constructor
  · rintro ⟨other, among, headed⟩
    obtain ⟨kept, rfl⟩ := headed?_eq_some_iff.1 headed
    exact ⟨among, kept⟩
  · rintro ⟨among, kept⟩
    exact ⟨c, among, headed?_eq_some_iff.2 ⟨kept, rfl⟩⟩

/-- A candidate that is not kept leaves no trace but in the journal. -/
theorem outcome_keep (source : Source) (found : List Candidate) :
    (keep source found).outcome =
      (found.filterMap headed?).mapM fun (c, header) =>
        ((containerCodes source.containers c.code).mapError Failure.column).map
          (categoryOf c header) := by
  induction found with
  | nil => rfl
  | cons c rest ih =>
    rw [keep]
    cases given : verdict c with
    | unassigned =>
      rw [List.filterMap_cons_none (by rw [headed?, given]), ← ih]
      rfl
    | openAnswer =>
      rw [List.filterMap_cons_none (by rw [headed?, given]), ← ih]
      rfl
    | clash =>
      rw [List.filterMap_cons_none (by rw [headed?, given]), ← ih]
      rfl
    | kept header =>
      have first : headed? c = some (c, header) := headed?_eq_some_iff.2 ⟨given, rfl⟩
      rw [List.filterMap_cons_some first, List.mapM_cons, ← ih]
      simp only [Report.outcome_bind, Report.outcome_ofExcept, Report.outcome_pure]
      cases containerCodes source.containers c.code <;> rfl

/-- Keeping candidates fails only where the containers of one that is kept cannot be found. -/
theorem keep_eq_ok_iff {source : Source} {found : List Candidate} {kept : List (Category × String)} :
    (keep source found).outcome = .ok kept ↔
      (∀ entry ∈ found.filterMap headed?,
        ∃ codes, containerCodes source.containers entry.1.code = .ok codes) ∧
      kept = keptOf source.containers found := by
  rw [outcome_keep]
  refine Report.mapM_eq_ok_iff fun ⟨c, header⟩ category => ?_
  show ((containerCodes source.containers c.code).mapError _).map _ = _ ↔ _
  cases found : containerCodes source.containers c.code with
  | error e => simp [Except.mapError, Except.map, found]
  | ok codes =>
    simp only [Except.mapError, Except.map, found, Except.ok.injEq, exists_eq', true_and]
    exact eq_comm

/-! ## Groups -/

/-- The code of the header of a category that is kept. -/
def headerOf (entry : Category × String) : String :=
  entry.1.header.getD ""

/-- The group of a header: it takes the label from the first category under it. -/
def groupOf (kept : List (Category × String)) (code : String) : Group where
  code := code
  label := ((kept.find? fun entry => headerOf entry == code).map Prod.snd).getD ""
  children := (kept.filter fun entry => headerOf entry == code).map Prod.fst

theorem groupOf_append_other {kept : List (Category × String)} {entry : Category × String} {code : String}
    (other : headerOf entry ≠ code) : groupOf (kept ++ [entry]) code = groupOf kept code := by
  have different : (headerOf entry == code) = false := beq_eq_false_iff_ne.2 other
  have none : [entry].find? (fun entry => headerOf entry == code) = .none := by
    rw [List.find?_cons, different]
    rfl
  have empty : [entry].filter (fun entry => headerOf entry == code) = [] := by
    rw [List.filter_cons, different]
    rfl
  rw [groupOf, groupOf, List.find?_append, none, Option.or_none, List.filter_append, empty,
    List.append_nil]

theorem groupOf_append_same {kept : List (Category × String)} (entry : Category × String)
    (known : headerOf entry ∈ kept.map headerOf) :
    groupOf (kept ++ [entry]) (headerOf entry) =
      { groupOf kept (headerOf entry) with
        children := (groupOf kept (headerOf entry)).children ++ [entry.1] } := by
  obtain ⟨before, among, same⟩ := List.mem_map.1 known
  have first : (kept.find? fun other => headerOf other == headerOf entry).isSome = true :=
    List.find?_isSome.2 ⟨before, among, beq_iff_eq.2 same⟩
  obtain ⟨found, here⟩ := Option.isSome_iff_exists.1 first
  have last : [entry].filter (fun other => headerOf other == headerOf entry) = [entry] := by
    rw [List.filter_cons, beq_self_eq_true]
    rfl
  rw [groupOf, groupOf, List.find?_append, here, List.filter_append, last, List.map_append]
  rfl

theorem groupOf_append_new {kept : List (Category × String)} {entry : Category × String}
    (fresh : headerOf entry ∉ kept.map headerOf) :
    groupOf (kept ++ [entry]) (headerOf entry) = ⟨headerOf entry, entry.2, [entry.1]⟩ := by
  have others : ∀ other ∈ kept, (headerOf other == headerOf entry) = false := by
    intro other member
    exact beq_eq_false_iff_ne.2 fun same => fresh (same ▸ List.mem_map_of_mem member)
  have none : kept.find? (fun other => headerOf other == headerOf entry) = .none := by
    rw [List.find?_eq_none]
    intro other member
    rw [others other member]
    exact Bool.false_ne_true
  have empty : kept.filter (fun other => headerOf other == headerOf entry) = [] := by
    rw [List.filter_eq_nil_iff]
    intro other member
    rw [others other member]
    exact Bool.false_ne_true
  rw [groupOf, List.find?_append, none, Option.none_or, List.filter_append, empty, List.nil_append,
    List.find?_cons, List.filter_cons, beq_self_eq_true]
  rfl

theorem addToGroups_map {kept : List (Category × String)} (entry : Category × String)
    {codes : List String} (distinct : codes.Nodup) (known : ∀ code ∈ codes, code ∈ kept.map headerOf) :
    addToGroups entry.1 (headerOf entry) entry.2 (codes.map (groupOf kept)) =
      if headerOf entry ∈ codes then codes.map (groupOf (kept ++ [entry]))
      else codes.map (groupOf kept) ++ [⟨headerOf entry, entry.2, [entry.1]⟩] := by
  induction codes with
  | nil => rfl
  | cons code rest ih =>
    obtain ⟨fresh, others⟩ := List.nodup_cons.1 distinct
    have tail := ih others fun other member => known other (.tail _ member)
    have code_groupOf : (groupOf kept code).code = code := rfl
    rw [List.map_cons, addToGroups, code_groupOf]
    by_cases same : headerOf entry = code
    · have unchanged : rest.map (groupOf (kept ++ [entry])) = rest.map (groupOf kept) := by
        refine List.map_congr_left fun other member => groupOf_append_other ?_
        exact fun equal => fresh (same.symm.trans equal ▸ member)
      subst same
      rw [if_pos (beq_self_eq_true _), if_pos List.mem_cons_self, List.map_cons, unchanged,
        groupOf_append_same entry (known _ List.mem_cons_self)]
      rfl
    · rw [if_neg (by simpa using Ne.symm same), tail, List.map_cons, groupOf_append_other same]
      simp only [List.mem_cons, same, false_or]
      split <;> rfl

theorem groupsOf_append (kept : List (Category × String)) (entry : Category × String) :
    groupsOf (kept ++ [entry]) = addToGroups entry.1 (headerOf entry) entry.2 (groupsOf kept) := by
  rw [groupsOf, List.foldl_append]
  rfl

/-- There is one group for each header, in the order in which the headers first come. -/
theorem groupsOf_eq (kept : List (Category × String)) :
    groupsOf kept = (kept.map headerOf).eraseDups.map (groupOf kept) := by
  induction kept using List.reverseRec with
  | nil => rfl
  | append_singleton kept entry ih =>
    have known : ∀ code ∈ (kept.map headerOf).eraseDups, code ∈ kept.map headerOf :=
      fun code member => List.mem_eraseDups.1 member
    rw [groupsOf_append, ih, addToGroups_map entry (nodup_eraseDups _) known, List.map_append,
      List.map_singleton, eraseDups_concat]
    by_cases present : headerOf entry ∈ kept.map headerOf
    · rw [if_pos (List.mem_eraseDups.2 present), if_pos present]
    · have others : (kept.map headerOf).eraseDups.map (groupOf (kept ++ [entry])) =
          (kept.map headerOf).eraseDups.map (groupOf kept) := by
        refine List.map_congr_left fun code member => groupOf_append_other ?_
        rintro rfl
        exact present (known _ member)
      rw [if_neg fun member => present (known _ member), if_neg present, List.map_append, others,
        List.map_singleton, groupOf_append_new present]

/-! ## The order of groups -/

/-- The key of a code that has a number if it is made of digits. -/
def keyOf (code : String) : GroupKey :=
  if isAllDigits code then .number (decimalNumber code.toList) else .text code

theorem key_eq_ok_iff {code : String} {key : GroupKey} :
    Group.key code = .ok key ↔ HasNumber code ∧ key = keyOf code :=
  ofNumber_eq_ok_iff

/-- Groups in the order of the keys of their codes. -/
def inOrder (groups : List Group) : List Group :=
  groups.mergeSort fun a b => (keyOf a.code).le (keyOf b.code)

theorem mem_inOrder {groups : List Group} {g : Group} : g ∈ inOrder groups ↔ g ∈ groups :=
  List.mem_mergeSort

theorem sortGroups_eq_ok_iff {groups sorted : List Group} :
    sortGroups groups = .ok sorted ↔
      (∀ g ∈ groups, HasNumber g.code) ∧ sorted = inOrder groups := by
  have keyed (pairs : List (GroupKey × Group)) :
      (groups.mapM fun g => (Group.key g.code).map fun key => (key, g)) = .ok pairs ↔
        (∀ g ∈ groups, HasNumber g.code) ∧ pairs = groups.map fun g => (keyOf g.code, g) := by
    refine Report.mapM_eq_ok_iff fun g pair => ?_
    cases key : Group.key g.code with
    | error e =>
      have unread : ¬HasNumber g.code := fun numbered => by
        cases key.symm.trans (key_eq_ok_iff.2 ⟨numbered, rfl⟩)
      simp [Except.map, unread]
    | ok key =>
      obtain ⟨numbered, rfl⟩ := key_eq_ok_iff.1 key
      simp [Except.map, numbered, eq_comm]
  have ordered : ((groups.map fun g => (keyOf g.code, g)).mergeSort fun a b => a.1.le b.1).map Prod.snd =
      inOrder groups := by
    have moved : (inOrder groups).map (fun g => (keyOf g.code, g)) =
        (groups.map fun g => (keyOf g.code, g)).mergeSort fun a b => a.1.le b.1 :=
      List.map_mergeSort fun _ _ _ _ => rfl
    rw [← moved, List.map_map]
    exact List.map_id _
  rw [sortGroups]
  cases made : groups.mapM fun g => (Group.key g.code).map fun key => (key, g) with
  | error e =>
    have unread : ¬∀ g ∈ groups, HasNumber g.code := fun numbered => by
      cases made.symm.trans ((keyed _).2 ⟨numbered, rfl⟩)
    simp [bind, Except.bind, unread]
  | ok pairs =>
    obtain ⟨numbered, rfl⟩ := (keyed pairs).1 made
    show Except.ok _ = _ ↔ _
    rw [ordered, Except.ok.injEq]
    exact ⟨fun same => ⟨numbered, same.symm⟩, fun both => both.2.symm⟩

/-! ## Whole taxonomies -/

/-- The categories that are kept of a category table. -/
def keptRows (source : Source) (table : List Row) : List (Category × String) :=
  keptOf source.containers (candidates source table)

/-- The groups of the categories that are not local, in the order in which their headers first come. -/
def groupsIn (kept : List (Category × String)) : List Group :=
  groupsOf (kept.filter fun entry => !(entry.1.bucket == .ofLocal))

/-- The local categories. -/
def localsIn (kept : List (Category × String)) : List Category :=
  (kept.filter fun entry => entry.1.bucket == .ofLocal).map Prod.fst

/-- The taxonomy of a category table. -/
def taxonomyOf (source : Source) (table : List Row) : Taxonomy :=
  ⟨source.list, inOrder (groupsIn (keptRows source table)), localsIn (keptRows source table)⟩

theorem outcome_build (source : Source) (table : List Row) :
    (build source table).outcome = do
      let kept ← (keep source (candidates source table)).outcome
      let groups ← (sortGroups (groupsIn kept)).mapError Failure.numeral
      return ⟨source.list, groups, localsIn kept⟩ := by
  rw [build]
  simp only [List.partition_eq_filter_filter, Report.outcome_bind, Report.outcome_ofExcept]
  refine bind_congr fun kept => bind_congr fun groups => ?_
  split <;> rfl

/-- Building succeeds exactly if the containers of the categories that are kept can be found and the
codes of the groups can be read. -/
theorem build_eq_ok_iff {source : Source} {table : List Row} {t : Taxonomy} :
    (build source table).outcome = .ok t ↔
      (∀ entry ∈ (candidates source table).filterMap headed?,
        ∃ codes, containerCodes source.containers entry.1.code = .ok codes) ∧
      (∀ g ∈ groupsIn (keptRows source table), HasNumber g.code) ∧ t = taxonomyOf source table := by
  rw [outcome_build]
  cases made : (keep source (candidates source table)).outcome with
  | error failure =>
    have missing : ¬∀ entry ∈ (candidates source table).filterMap headed?,
        ∃ codes, containerCodes source.containers entry.1.code = .ok codes := fun present => by
      cases made.symm.trans (keep_eq_ok_iff.2 ⟨present, rfl⟩)
    exact ⟨nofun, fun all => absurd all.1 missing⟩
  | ok kept =>
    obtain ⟨present, rfl⟩ := keep_eq_ok_iff.1 made
    show ((sortGroups (groupsIn (keptRows source table))).mapError Failure.numeral >>= _) = _ ↔ _
    cases ordered : sortGroups (groupsIn (keptRows source table)) with
    | error e =>
      have unread : ¬∀ g ∈ groupsIn (keptRows source table), HasNumber g.code := fun numbered => by
        cases ordered.symm.trans (sortGroups_eq_ok_iff.2 ⟨numbered, rfl⟩)
      exact ⟨nofun, fun all => absurd all.2.1 unread⟩
    | ok groups =>
      obtain ⟨numbered, rfl⟩ := sortGroups_eq_ok_iff.1 ordered
      exact ⟨fun same => ⟨present, numbered, (Except.ok.inj same).symm⟩,
        fun all => congrArg Except.ok all.2.2.symm⟩

end Codebook.Taxonomy
