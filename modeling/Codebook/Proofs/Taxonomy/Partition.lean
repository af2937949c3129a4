import Codebook.Proofs.Taxonomy.GroupOrder
import Codebook.Proofs.Taxonomy.Grouping
import Codebook.Proofs.Taxonomy.TakenNames

/-!
# What becomes of the rows of a category table

Each row that counts has one verdict: it is unassigned, it is the open answer, it clashes with it, or it is
kept. Building accounts for every one of them: dropped rows leave their issues in the order of the rows, and
kept rows are the local categories and the children of the groups, each under its own header
(`partition_of_build`).
-/

namespace Codebook.Taxonomy

open ImportRow Text

/-! ## Rows that count -/

theorem occursIn_iff {part chars : List Char} : occursIn part chars = true ↔ part <:+: chars := by
  induction chars with
  | nil => rw [occursIn, List.isEmpty_iff, List.infix_nil]
  | cons c rest ih => rw [occursIn, Bool.or_eq_true, List.isPrefixOf_iff_prefix, ih, List.infix_cons_iff]

/-- What a row has that counts, and what a candidate has from it; a cell without a character is empty. -/
structure IsCandidateOf (marker : String) (row : Row) (c : Candidate) : Prop where
  label : row.filled? "A" = some c.label
  code : (row.filled? "B").map trim = some c.code
  marked : ∃ definition, row.filled? "C" = some definition ∧
    (lower marker).toList <:+: (lower definition).toList
  headerLabel : row.text? "D" = c.headerLabel
  headerCode : (row.filled? "E").map trim = c.headerCode

theorem candidate?_eq_some_iff {marker : String} {row : Row} {c : Candidate} :
    candidate? marker row = some c ↔ IsCandidateOf marker row c := by
  have marked (definition : String) : isMarked marker definition = true ↔
      (lower marker).toList <:+: (lower definition).toList := occursIn_iff
  rcases c with ⟨label, code, headerLabel, headerCode⟩
  rw [candidate?]
  constructor
  · intro made
    obtain ⟨label, first, made⟩ := Option.bind_eq_some_iff.1 made
    obtain ⟨code, second, made⟩ := Option.bind_eq_some_iff.1 made
    obtain ⟨definition, third, made⟩ := Option.bind_eq_some_iff.1 made
    split at made
    · next holds =>
      cases made
      exact ⟨first, by rw [second]; rfl, ⟨definition, third, (marked definition).1 holds⟩, rfl, rfl⟩
    · cases made
  · rintro ⟨first, second, ⟨definition, third, holds⟩, rfl, rfl⟩
    obtain ⟨text, filled, rfl⟩ := Option.map_eq_some_iff.1 second
    rw [first, filled, third]
    simp only [Option.bind_eq_bind, Option.bind_some, (marked definition).2 holds, if_true]

/-! ## Verdicts -/

/-- The verdict that a candidate deserves. -/
inductive Deserves (c : Candidate) : Verdict → Prop where
  | unassigned (headless : c.headerCode = none) : Deserves c .unassigned
  | openAnswer {header : String} (headed : c.headerCode = some header) (code : c.code = openAnswerCode)
      (reads : readsAsOpenAnswer c.label = true) : Deserves c .openAnswer
  | clashOfCode {header : String} (headed : c.headerCode = some header) (code : c.code = openAnswerCode)
      (other : readsAsOpenAnswer c.label = false) : Deserves c .clash
  | clashOfLabel (headed : c.headerCode = some localCode) (code : c.code ≠ openAnswerCode)
      (reads : readsAsOpenAnswer c.label = true) : Deserves c .clash
  | kept {header : String} (headed : c.headerCode = some header) (code : c.code ≠ openAnswerCode)
      (apart : readsAsOpenAnswer c.label = true → header ≠ localCode) : Deserves c (.kept header)

theorem deserves_verdict (c : Candidate) : Deserves c (verdict c) := by
  rw [verdict]
  split
  · next headless => exact .unassigned headless
  next header headed =>
  simp only [Bool.and_eq_true, Bool.or_eq_true, beq_iff_eq]
  split
  · next same => exact .openAnswer headed same.1 same.2
  next differs =>
  split
  · next clash =>
    by_cases code : c.code = openAnswerCode
    · exact .clashOfCode headed code (Bool.not_eq_true _ ▸ fun reads => differs ⟨code, reads⟩)
    · obtain ⟨reads, isLocal⟩ := clash.resolve_left code
      exact .clashOfLabel (isLocal ▸ headed) code reads
  · next free =>
    rw [not_or] at free
    exact .kept headed free.1 fun reads isLocal => free.2 ⟨reads, isLocal⟩

/-- A candidate deserves one verdict, which is the one that it gets. -/
theorem deserves_iff {c : Candidate} {v : Verdict} : Deserves c v ↔ verdict c = v := by
  refine ⟨fun deserved => ?_, fun same => same ▸ deserves_verdict c⟩
  have given := deserves_verdict c
  generalize verdict c = w at given
  cases deserved <;> cases given <;> simp_all

/-! ## Kept rows -/

/-- The candidates that are kept under a header. -/
def keptUnder (header : String) (found : List Candidate) : List Candidate :=
  found.filter fun c => verdict c == .kept header

/-- The category of a candidate under a header, with its containers. -/
def categoryUnder (source : Source) (header : String) (c : Candidate) : Category :=
  ⟨c.code, c.label, some header, (containerCodes source.containers c.code).toOption.getD []⟩

/-- The headers of the candidates that are kept, but for the local one, in the order in which they first
come. -/
def headersOf (found : List Candidate) : List String :=
  (((found.filterMap headed?).map Prod.snd).filter fun header => header != localCode).eraseDups

theorem mem_headersOf_iff {found : List Candidate} {header : String} :
    header ∈ headersOf found ↔ header ≠ localCode ∧ ∃ c ∈ found, verdict c = .kept header := by
  rw [headersOf, List.mem_eraseDups, List.mem_filter, bne_iff_ne, and_comm, List.mem_map, Prod.exists]
  refine and_congr_right fun _ => exists_congr fun c => ?_
  rw [← mem_filterMap_headed?_iff]
  exact exists_eq_right

/-- The group of a header: its label is that of the first row under it, and its children come as the rows. -/
def groupUnder (source : Source) (found : List Candidate) (header : String) : Group where
  code := header
  label := ((keptUnder header found).head?.map fun c => c.headerLabel.getD "").getD ""
  children := (keptUnder header found).map (categoryUnder source header)

theorem map_code_groupUnder (source : Source) (found : List Candidate) (headers : List String) :
    (headers.map (groupUnder source found)).map Group.code = headers := by
  rw [List.map_map]
  exact List.map_id headers

theorem filter_headed (header : String) (found : List Candidate) :
    (found.filterMap headed?).filter (fun kept => kept.2 == header) =
      (keptUnder header found).map (·, header) := by
  rw [keptUnder, List.filter_filterMap, ← List.filterMap_eq_map, List.filterMap_filter]
  refine List.filterMap_congr fun c _ => ?_
  rw [headed?]
  cases verdict c with
  | kept other =>
    by_cases same : other = header
    · subst same
      simp
    · simp [same]
  | _ => rfl

/-- The categories that are kept with one header come from the candidates that are kept under it. -/
theorem filter_keptOf (source : Source) (header : String) (found : List Candidate) :
    (keptOf source.containers found).filter (fun entry => headerOf entry == header) =
      (keptUnder header found).map fun c => (categoryUnder source header c, c.headerLabel.getD "") := by
  have headed := congrArg (List.map fun kept => categoryOf kept.1 kept.2
    ((containerCodes source.containers kept.1.code).toOption.getD [])) (filter_headed header found)
  rw [List.map_map] at headed
  rw [keptOf, List.filter_map]
  exact headed

/-! ## Groups and local categories -/

section Table

variable (source : Source) (table : List Row)

theorem localsIn_keptRows :
    localsIn (keptRows source table) =
      (keptUnder localCode (candidates source table)).map (categoryUnder source localCode) := by
  have under : (keptRows source table).filter (fun entry => entry.1.bucket == .ofLocal) =
      (keptRows source table).filter fun entry => headerOf entry == localCode := by
    refine List.filter_congr fun entry member => ?_
    rw [Bool.eq_iff_iff, isLocal_iff_of_mem_keptRows member, beq_iff_eq]
  rw [localsIn, under, keptRows, filter_keptOf, List.map_map]
  rfl

/-- There is one group for each header that is not the local one. -/
theorem groupsIn_keptRows :
    groupsIn (keptRows source table) =
      (headersOf (candidates source table)).map (groupUnder source (candidates source table)) := by
  have others : (keptRows source table).filter (fun entry => !(entry.1.bucket == .ofLocal)) =
      (keptRows source table).filter fun entry => headerOf entry != localCode := by
    refine List.filter_congr fun entry member => ?_
    rw [bne, Bool.eq_iff_iff, Bool.not_eq_true', Bool.not_eq_true', ← Bool.not_eq_true, ← Bool.not_eq_true,
      isLocal_iff_of_mem_keptRows member, beq_iff_eq]
  have headers : ((keptRows source table).filter fun entry => headerOf entry != localCode).map headerOf =
      (((candidates source table).filterMap headed?).map Prod.snd).filter fun header =>
        header != localCode := by
    have known : (keptRows source table).map headerOf =
        ((candidates source table).filterMap headed?).map Prod.snd := by
      rw [keptRows, keptOf, List.map_map]
      rfl
    rw [← known, List.filter_map]
    rfl
  rw [groupsIn, others, groupsOf_eq, headers, headersOf]
  refine List.map_congr_left fun header member => ?_
  have other := (List.mem_filter.1 (List.mem_eraseDups.1 member)).2
  -- The rows under another header are all there once the local ones are left out.
  have under : ((keptRows source table).filter fun entry => headerOf entry != localCode).filter
      (fun entry => headerOf entry == header) =
        (keptUnder header (candidates source table)).map fun c =>
          (categoryUnder source header c, c.headerLabel.getD "") := by
    rw [List.filter_filter, ← filter_keptOf, keptRows]
    refine List.filter_congr fun entry _ => ?_
    by_cases same : headerOf entry = header
    · rw [same, other, Bool.and_true]
    · rw [beq_eq_false_iff_ne.2 same, Bool.false_and]
  rw [groupOf, groupUnder, ← List.head?_filter, under, List.map_map, List.head?_map, Option.map_map]
  rfl

theorem taxonomyOf_eq :
    taxonomyOf source table =
      ⟨source.list,
        inOrder ((headersOf (candidates source table)).map (groupUnder source (candidates source table))),
        (keptUnder localCode (candidates source table)).map (categoryUnder source localCode)⟩ := by
  rw [taxonomyOf, groupsIn_keptRows, localsIn_keptRows]

end Table

/-! ## Every category -/

theorem perm_addToGroups (c : Category) (code label : String) (groups : List Group) :
    ((addToGroups c code label groups).flatMap Group.children).Perm
      (c :: groups.flatMap Group.children) := by
  induction groups with
  | nil => exact List.Perm.refl _
  | cons g rest ih =>
    rw [addToGroups]
    split
    · rw [List.flatMap_cons, List.flatMap_cons, List.append_assoc]
      exact List.perm_middle
    · rw [List.flatMap_cons, List.flatMap_cons]
      exact (ih.append_left g.children).trans List.perm_middle

theorem perm_groupsOf (kept : List (Category × String)) :
    ((groupsOf kept).flatMap Group.children).Perm (kept.map Prod.fst) := by
  induction kept using List.reverseRecOn with
  | nil => exact List.Perm.refl _
  | append_singleton kept entry ih =>
    rw [groupsOf_append, List.map_append, List.map_singleton]
    exact (perm_addToGroups ..).trans ((ih.cons entry.1).trans (List.perm_append_singleton ..).symm)

/-- The categories of a table are those that are kept, group by group. -/
theorem perm_categories (source : Source) (table : List Row) :
    (taxonomyOf source table).categories.Perm ((keptRows source table).map Prod.fst) := by
  have groups : ((inOrder (groupsIn (keptRows source table))).flatMap Group.children).Perm
      (((keptRows source table).filter fun entry => !(entry.1.bucket == .ofLocal)).map Prod.fst) :=
    ((List.mergeSort_perm ..).flatMap_right _).trans (perm_groupsOf _)
  have parts := (List.filter_append_perm (fun entry : Category × String => entry.1.bucket == .ofLocal)
    (keptRows source table)).map Prod.fst
  rw [List.map_append] at parts
  exact (groups.append_right _).trans (List.perm_append_comm.trans parts)

/-- A taxonomy is empty exactly if no candidate is kept. -/
theorem isEmpty_taxonomyOf (source : Source) (table : List Row) :
    (taxonomyOf source table).isEmpty = ((candidates source table).filterMap headed?).isEmpty := by
  have count : (taxonomyOf source table).categoryCount =
      ((candidates source table).filterMap headed?).length := by
    have whole := (perm_categories source table).length_eq
    rwa [categories, List.length_append, keptRows, keptOf, List.length_map, List.length_map] at whole
  rw [isEmpty, count, Bool.eq_iff_iff, beq_iff_eq, List.isEmpty_iff_length_eq_zero]

/-! ## Accounts -/

/-- Whether a taxonomy accounts for candidates: each that is kept is there once, under its header. -/
structure AccountsFor (source : Source) (found : List Candidate) (t : Taxonomy) : Prop where
  name : t.name = source.list
  containers : ∀ c ∈ found, ∀ header, verdict c = .kept header →
    ∃ codes, containerCodes source.containers c.code = .ok codes
  categories : t.categories.Perm
    ((found.filterMap headed?).map fun (c, header) => categoryUnder source header c)
  locals : t.locals = (keptUnder localCode found).map (categoryUnder source localCode)
  /-- A group has the label of the first row under its header, and all rows under it as they come. -/
  group : ∀ g ∈ t.groups, g.code ≠ localCode ∧ ∃ first rest, keptUnder g.code found = first :: rest ∧
    g.label = first.headerLabel.getD "" ∧ g.children = (first :: rest).map (categoryUnder source g.code)
  sole : ∀ c ∈ found, ∀ header, verdict c = .kept header → header ≠ localCode →
    ∃! g, g ∈ t.groups ∧ g.code = header
  distinct : (t.groups.map Group.code).Nodup
  keys : ∀ g ∈ t.groups, Group.key g.code = .ok (keyOf g.code)
  ordered : t.groups.Pairwise fun a b => (keyOf a.code).le (keyOf b.code) = true
  /-- Groups with one key come as their headers first come. -/
  tied : ∀ key, (t.groups.map Group.code).filter (fun code => keyOf code == key) =
    (headersOf found).filter fun code => keyOf code == key

theorem mem_groups_taxonomyOf {source : Source} {table : List Row} {g : Group} :
    g ∈ (taxonomyOf source table).groups ↔
      ∃ header ∈ headersOf (candidates source table), groupUnder source (candidates source table) header = g := by
  rw [taxonomyOf_eq, mem_inOrder, List.mem_map]

/-- A header has a row that is kept under it. -/
theorem keptUnder_eq_cons {found : List Candidate} {header : String} (member : header ∈ headersOf found) :
    ∃ first rest, keptUnder header found = first :: rest := by
  obtain ⟨_, c, among, kept⟩ := mem_headersOf_iff.1 member
  have under : c ∈ keptUnder header found := List.mem_filter.2 ⟨among, beq_iff_eq.2 kept⟩
  exact List.exists_cons_of_ne_nil (List.ne_nil_of_mem under)

theorem accountsFor_taxonomyOf {source : Source} {table : List Row} {t : Taxonomy}
    (ok : (build source table).outcome = .ok t) :
    AccountsFor source (candidates source table) t := by
  obtain ⟨present, numbered, rfl⟩ := build_eq_ok_iff.1 ok
  refine ⟨rfl, fun c among header kept => ?_, ?_, ?_, fun g member => ?_, fun c among header kept other => ?_,
    ?_, fun g member => ?_, pairwise_inOrder _, fun key => ?_⟩
  · exact present (c, header) (mem_filterMap_headed?_iff.2 ⟨among, kept⟩)
  · have whole := perm_categories source table
    rwa [keptRows, keptOf, List.map_map] at whole
  · rw [taxonomyOf_eq]
  · obtain ⟨header, known, rfl⟩ := mem_groups_taxonomyOf.1 member
    obtain ⟨first, rest, under⟩ := keptUnder_eq_cons known
    refine ⟨(mem_headersOf_iff.1 known).1, first, rest, under, ?_, ?_⟩
    · rw [groupUnder, under]
      rfl
    · rw [← under]
      rfl
  · have known := mem_headersOf_iff.2 ⟨other, c, among, kept⟩
    refine ⟨_, ⟨mem_groups_taxonomyOf.2 ⟨header, known, rfl⟩, rfl⟩, ?_⟩
    rintro g ⟨member, rfl⟩
    obtain ⟨header, _, rfl⟩ := mem_groups_taxonomyOf.1 member
    rfl
  · rw [taxonomyOf_eq, ((perm_inOrder _).map Group.code).nodup_iff, map_code_groupUnder]
    exact nodup_eraseDups _
  · exact key_eq_ok_iff.2 ⟨numbered g (mem_inOrder.1 member), rfl⟩
  · have tied (groups : List Group) :
        ((inOrder groups).map Group.code).filter (fun code => keyOf code == key) =
          (groups.map Group.code).filter fun code => keyOf code == key := by
      rw [List.filter_map, List.filter_map]
      exact congrArg (List.map Group.code) (filter_inOrder groups key)
    rw [taxonomyOf_eq, tied, map_code_groupUnder]

/-! ## Whole tables -/

/-- A table of which a taxonomy is built has its rows accounted for. A row counts if it has a label, a code
and a marked definition, and then it has one verdict. The issues are those of the rows that are dropped, in
their order, and one more if no row is kept; the taxonomy has each row that is kept in its own place, and its
groups stand in the order of their keys. -/
theorem partition_of_build {source : Source} {table : List Row} {t : Taxonomy}
    (ok : (build source table).outcome = .ok t) :
    (∀ row c, candidate? source.marker row = some c ↔ IsCandidateOf source.marker row c) ∧
      (∀ c ∈ candidates source table, ∀ v, Deserves c v ↔ verdict c = v) ∧
      (build source table).journal.issues =
        (candidates source table).filterMap (issueOf? source)
          ++ (if ((candidates source table).filterMap headed?).isEmpty then
            [⟨source.workbook, source.list, -1, "EMPTY_TAXONOMY", "no diary categories found"⟩]
          else []) ∧
      AccountsFor source (candidates source table) t := by
  refine ⟨fun _ _ => candidate?_eq_some_iff, fun _ _ _ => deserves_iff, ?_, accountsFor_taxonomyOf ok⟩
  rw [issues_build_of_ok ok, issuesOf, isEmpty_taxonomyOf]

/-- A category table with rows of every verdict, and one that does not count. -/
def medley : List Row :=
  let row (label code headerLabel headerCode : String) : Row :=
    [("A", some label), ("B", some code), ("C", some "Diary"), ("D", some headerLabel), ("E", some headerCode)]
  [[("A", some "Label"), ("B", some "Code"), ("C", some "Definition")],
    row "Cider" " 1101 " "Ciders" "1100",
    [("A", some "Cocoa"), ("B", some "1501"), ("C", some "diary")],
    row " other (SPECIFY)" "1099" "Ciders" "1100",
    row "Punch" "1099" "Punches" "1200",
    row "Other (specify)" "1001" "" "1000",
    row "Toddy" "1002" "" "1000",
    row "Mead" "m1" "Meads" "mead",
    row "Sherry" "201" "Wines" "0200",
    row "Port" "202" "Strong wines" "200",
    row "Perry" "1102" "Perries" "1100",
    [("A", some "Bread"), ("B", some "3001"), ("C", some "food"), ("E", some "3000")]]

/-- Of groups with one number the one that comes first stays first. -/
theorem partition_of_build_medley :
    ∃ t, (build sole medley).outcome = .ok t ∧ AccountsFor sole (candidates sole medley) t ∧
      (t.groups.map Group.code).filter (fun code => keyOf code == .number 200) = ["0200", "200"] ∧
      t.locals.map Category.code = ["1002"] ∧
      (build sole medley).journal.issues.map Issue.kind =
        ["UNASSIGNED_CATEGORY", "DUPLICATE_CODE", "DUPLICATE_CODE"] := by
  have loaded : Table.load [("Boxes", flagged)] "Boxes" (.whole 0) = .ok sole.containers := rfl
  have numbered := hasNumberedColumns_load loaded
  have built : (build sole medley).outcome = .ok (taxonomyOf sole medley) := by
    refine build_eq_ok_iff.2 ⟨fun entry _ => containerCodes_ok numbered _, ?_, rfl⟩
    decide +kernel
  obtain ⟨-, -, issues, accounts⟩ := partition_of_build built
  refine ⟨_, built, accounts, ?_, by decide +kernel, ?_⟩
  · rw [accounts.tied]
    decide +kernel
  · rw [issues]
    decide +kernel

end Codebook.Taxonomy
