import Codebook.Proofs.Taxonomy.Partition

/-!
# Tables whose groups are interleaved

Of the order of rows only that under one header counts: tables with the same rows, those with each header code
in one order, are built to one taxonomy where different headers have different keys. Their issues are the same
as well, but for the order (`build_of_interleaved`).
-/

namespace Codebook.Taxonomy

open Definition ImportRow Text

/-! ## Interleaved tables -/

/-- The header code of a row. -/
def headerCode? (row : Row) : Option String :=
  (row.filled? "E").map trim

/-- The rows of a table with a header code, in their order. -/
def rowsWith (code : String) (table : List Row) : List Row :=
  (table.drop 1).filter fun row => headerCode? row == some code

/-- Whether tables have the same rows after the first, and those with one header code in one order. Rows
without a header code come anywhere. -/
structure Interleaved (table other : List Row) : Prop where
  perm : (table.drop 1).Perm (other.drop 1)
  order : ∀ code, rowsWith code table = rowsWith code other

theorem Interleaved.symm {table other : List Row} (same : Interleaved table other) :
    Interleaved other table :=
  ⟨same.perm.symm, fun code => (same.order code).symm⟩

/-- The codes to look at are those of the rows themselves. -/
theorem interleaved_iff {table other : List Row} :
    Interleaved table other ↔ (table.drop 1).Perm (other.drop 1) ∧
      ∀ code ∈ (table.drop 1).filterMap headerCode?, rowsWith code table = rowsWith code other := by
  refine ⟨fun same => ⟨same.perm, fun code _ => same.order code⟩, fun ⟨perm, order⟩ => ⟨perm, fun code => ?_⟩⟩
  by_cases known : code ∈ (table.drop 1).filterMap headerCode?
  · exact order code known
  · have none : rowsWith code table = [] := by
      refine List.filter_eq_nil_iff.2 fun row member found => known ?_
      exact List.mem_filterMap.2 ⟨row, member, beq_iff_eq.1 found⟩
    have moved := (perm.filter fun row => headerCode? row == some code).symm
    rw [← rowsWith, ← rowsWith, none] at moved
    rw [none, moved.eq_nil]

instance (table other : List Row) : Decidable (Interleaved table other) :=
  decidable_of_iff _ interleaved_iff.symm

/-! ## Candidates of interleaved tables -/

theorem headerCode?_of_candidate? {marker : String} {row : Row} {c : Candidate}
    (made : candidate? marker row = some c) : headerCode? row = c.headerCode :=
  (candidate?_eq_some_iff.1 made).headerCode

/-- The candidates with a header code are those of the rows with it. -/
theorem filter_candidates (source : Source) (table : List Row) (code : String) :
    (candidates source table).filter (fun c => c.headerCode == some code) =
      (rowsWith code table).filterMap (candidate? source.marker) := by
  rw [candidates, rowsWith, List.filter_filterMap, List.filterMap_filter]
  refine List.filterMap_congr fun row _ => ?_
  cases made : candidate? source.marker row with
  | none => rw [Option.filter_none, ite_self]
  | some c => rw [Option.filter_some, headerCode?_of_candidate? made]

/-- A candidate is kept only under the header that it has. -/
theorem keptUnder_filter (header : String) (found : List Candidate) :
    keptUnder header (found.filter fun c => c.headerCode == some header) = keptUnder header found := by
  rw [keptUnder, keptUnder, List.filter_filter]
  refine List.filter_congr fun c _ => ?_
  by_cases kept : verdict c = .kept header
  · rw [(verdict_eq_kept kept).1, beq_self_eq_true, Bool.and_true]
  · rw [beq_eq_false_iff_ne.2 kept, Bool.false_and]

section Interleaved

variable {source : Source} {table other : List Row} (same : Interleaved table other)
include same

theorem perm_candidates (source : Source) : (candidates source table).Perm (candidates source other) :=
  same.perm.filterMap _

theorem keptUnder_of_interleaved (source : Source) (header : String) :
    keptUnder header (candidates source table) = keptUnder header (candidates source other) := by
  rw [← keptUnder_filter, ← keptUnder_filter header (candidates source other), filter_candidates,
    filter_candidates, same.order]

theorem groupUnder_of_interleaved (source : Source) :
    groupUnder source (candidates source table) = groupUnder source (candidates source other) := by
  funext header
  rw [groupUnder, groupUnder, keptUnder_of_interleaved same]

theorem perm_headersOf (source : Source) :
    (headersOf (candidates source table)).Perm (headersOf (candidates source other)) := by
  refine (List.perm_ext_iff_of_nodup (nodup_eraseDups _) (nodup_eraseDups _)).2 fun header => ?_
  rw [← headersOf, ← headersOf, mem_headersOf_iff, mem_headersOf_iff]
  refine and_congr_right fun _ => exists_congr fun c => and_congr_left fun _ => ?_
  exact (perm_candidates same source).mem_iff

end Interleaved

/-! ## Taxonomies of interleaved tables -/

/-- Whether no two headers that are kept have one key. -/
def HasDistinctKeys (source : Source) (table : List Row) : Prop :=
  ∀ a ∈ headersOf (candidates source table), ∀ b ∈ headersOf (candidates source table), ∀ key,
    Group.key a = .ok key → Group.key b = .ok key → a = b

/-- Building succeeds exactly if the containers of the categories that are kept can be found and their headers
can be read. -/
theorem build_eq_ok_iff_headersOf {source : Source} {table : List Row} {t : Taxonomy} :
    (build source table).outcome = .ok t ↔
      (∀ entry ∈ (candidates source table).filterMap headed?,
        ∃ codes, containerCodes source.containers entry.1.code = .ok codes) ∧
      (∀ header ∈ headersOf (candidates source table), HasNumber header) ∧ t = taxonomyOf source table := by
  rw [build_eq_ok_iff, groupsIn_keptRows, List.forall_mem_map]
  rfl

section Interleaved

variable {source : Source} {table other : List Row} (same : Interleaved table other)
include same

theorem HasDistinctKeys.of_interleaved (apart : HasDistinctKeys source table) :
    HasDistinctKeys source other := by
  have known {header : String} (member : header ∈ headersOf (candidates source other)) :
      header ∈ headersOf (candidates source table) :=
    (perm_headersOf same source).mem_iff.2 member
  exact fun a left b right => apart a (known left) b (known right)

theorem taxonomyOf_of_interleaved (apart : HasDistinctKeys source table)
    (numbered : ∀ header ∈ headersOf (candidates source table), HasNumber header) :
    taxonomyOf source table = taxonomyOf source other := by
  have perm := (perm_headersOf same source).map (groupUnder source (candidates source table))
  have groups := inOrder_eq_of_perm perm ?_
  · rw [taxonomyOf_eq, taxonomyOf_eq, groups, groupUnder_of_interleaved same,
      keptUnder_of_interleaved same]
  -- Groups with one key have headers with one key, and these are the same header.
  · rintro a left b right tied
    obtain ⟨first, among, rfl⟩ := List.mem_map.1 left
    obtain ⟨second, inside, rfl⟩ := List.mem_map.1 right
    have equal := apart first among second inside (keyOf first)
      (key_eq_ok_iff.2 ⟨numbered first among, rfl⟩) (key_eq_ok_iff.2 ⟨numbered second inside, tied⟩)
    rw [equal]

/-- Building looks at the categories that are kept one by one, so it succeeds on both tables or on none. -/
theorem build_ok_of_interleaved (apart : HasDistinctKeys source table) {t : Taxonomy}
    (ok : (build source table).outcome = .ok t) : (build source other).outcome = .ok t := by
  obtain ⟨present, numbered, rfl⟩ := build_eq_ok_iff_headersOf.1 ok
  refine build_eq_ok_iff_headersOf.2 ⟨fun entry member => ?_, fun header member => ?_, ?_⟩
  · exact present entry (((perm_candidates same source).filterMap headed?).mem_iff.2 member)
  · exact numbered header ((perm_headersOf same source).mem_iff.2 member)
  · exact taxonomyOf_of_interleaved same apart numbered

theorem perm_issuesOf : (issuesOf source table).Perm (issuesOf source other) := by
  have kept := ((perm_candidates same source).filterMap headed?).isEmpty_eq
  rw [issuesOf, issuesOf, isEmpty_taxonomyOf, isEmpty_taxonomyOf, kept]
  exact ((perm_candidates same source).filterMap _).append_right _

/-- Tables that differ in how their groups are interleaved are built to one taxonomy, if the keys of their
headers are distinct, and so they have one text; the issues come in another order at most. A table whose
headers have keys is built, given that the columns of the containers have numbers. -/
theorem build_of_interleaved (apart : HasDistinctKeys source table) :
    (HasNumberedColumns source.containers →
        (∀ header ∈ headersOf (candidates source table), ∃ key, Group.key header = .ok key) →
        ∃ t, (build source table).outcome = .ok t) ∧
      (∀ t, (build source table).outcome = .ok t ↔ (build source other).outcome = .ok t) ∧
      ∀ t u, (build source table).outcome = .ok t → (build source other).outcome = .ok u →
        t = u ∧ (renderTaxonomy t).text = (renderTaxonomy u).text ∧
        (build source table).journal.issues.Perm (build source other).journal.issues := by
  refine ⟨fun columns keyed => ?_, fun t => ?_, fun t u first second => ?_⟩
  · refine ⟨_, build_eq_ok_iff_headersOf.2 ⟨fun entry _ => containerCodes_ok columns _, ?_, rfl⟩⟩
    intro header member
    obtain ⟨key, found⟩ := keyed header member
    exact (key_eq_ok_iff.1 found).1
  · exact ⟨build_ok_of_interleaved same apart, build_ok_of_interleaved same.symm (apart.of_interleaved same)⟩
  · have moved := build_ok_of_interleaved same apart first
    obtain rfl := Except.ok.inj (moved.symm.trans second)
    refine ⟨rfl, rfl, ?_⟩
    rw [issues_build_of_ok first, issues_build_of_ok second]
    exact perm_issuesOf same

end Interleaved

/-- A category table with rows of two groups, of the local one and of none. -/
def byGroup : List Row :=
  let row (label code headerLabel : String) : Row :=
    [("A", some label), ("B", some code), ("C", some "Diary"), ("D", some headerLabel)]
  [[("A", some "Label"), ("B", some "Code"), ("C", some "Definition")],
    row "Cider" "1101" "Ciders" ++ [("E", some "1100")],
    row "Perry" "1102" "Perries" ++ [("E", some "1100 ")],
    row "Port" "201" "Wines" ++ [("E", some "200")],
    row "Punch" "1099" "Wines" ++ [("E", some "200")],
    row "Toddy" "1001" "" ++ [("E", some "1000")],
    row "Cocoa" "1501" "",
    row "Tea" "1502" ""]

/-- The same table with its rows turned about. -/
def turnedAbout : List Row :=
  byGroup.take 1 ++ [byGroup[7], byGroup[3], byGroup[1], byGroup[5], byGroup[6], byGroup[4], byGroup[2]]

/-- The header that comes first is not the one that stands first. -/
theorem build_of_interleaved_turnedAbout :
    Interleaved byGroup turnedAbout ∧ HasDistinctKeys sole byGroup ∧
      ∃ t, (build sole byGroup).outcome = .ok t ∧ (build sole turnedAbout).outcome = .ok t ∧
        headersOf (candidates sole byGroup) ≠ headersOf (candidates sole turnedAbout) ∧
        (build sole byGroup).journal.issues.Perm (build sole turnedAbout).journal.issues := by
  have same : Interleaved byGroup turnedAbout := by decide +kernel
  have headers : headersOf (candidates sole byGroup) = ["1100", "200"] := by decide +kernel
  have apart : HasDistinctKeys sole byGroup := by
    intro a left b right key first second
    have distinct : ∀ a ∈ headersOf (candidates sole byGroup), ∀ b ∈ headersOf (candidates sole byGroup),
        keyOf a = keyOf b → a = b := by
      decide +kernel
    exact distinct a left b right ((key_eq_ok_iff.1 first).2.symm.trans (key_eq_ok_iff.1 second).2)
  have columns := hasNumberedColumns_load
    (show Table.load [("Boxes", flagged)] "Boxes" (.whole 0) = .ok sole.containers from rfl)
  obtain ⟨builds, both, agree⟩ := build_of_interleaved same apart
  have keyed : ∀ header ∈ headersOf (candidates sole byGroup), HasNumber header := by decide +kernel
  obtain ⟨t, built⟩ := builds columns fun header member => ⟨_, key_eq_ok_iff.2 ⟨keyed header member, rfl⟩⟩
  have other := (both t).1 built
  exact ⟨same, apart, t, built, other, by decide +kernel, (agree t t built other).2.2⟩

end Codebook.Taxonomy
