import Codebook.Proofs.Taxonomy.Building
import Codebook.Proofs.Taxonomy.RoundTrip

/-!
# Taxonomies that are built can be written

Where the codes of a category table are words, and numbers if they are made of digits, and the codes of
the containers may stand between quotes, the table makes a taxonomy that can be written and read back
(`build_ok`): no category of it has the code of the open answer.
-/

namespace Codebook.Taxonomy

open Definition ImportRow Text

/-- Whether the names and the codes of a source and its category table can be written. -/
@[mk_iff]
structure HasWritableCodes (source : Source) (table : List Row) : Prop where
  list : IsWord source.list
  noCode : source.list.toList.head? ≠ some '_'
  codes : ∀ c ∈ candidates source table, IsWord c.code ∧ HasNumber c.code
  headers : ∀ c ∈ candidates source table, ∀ header ∈ c.headerCode, IsWord header ∧ HasNumber header
  containers : ∀ row ∈ source.containers.drop 1, ∀ text ∈ row.filled? containerColumn,
    '"' ∉ (trim text).toList ∧ '\n' ∉ (trim text).toList

instance (source : Source) (table : List Row) : Decidable (HasWritableCodes source table) :=
  decidable_of_iff _ (hasWritableCodes_iff source table).symm

/-! ## Categories that are kept -/

theorem verdict_eq_kept {c : Candidate} {header : String} (kept : verdict c = .kept header) :
    c.headerCode = some header ∧ c.code ≠ openAnswerCode := by
  unfold verdict at kept
  split at kept
  · cases kept
  next code =>
  split at kept
  · cases kept
  split at kept
  · cases kept
  next unreserved =>
  cases kept
  simp only [Bool.or_eq_true, beq_iff_eq, not_or] at unreserved
  exact ⟨code, unreserved.1⟩

/-- A category that is kept comes from a candidate with a header. -/
theorem mem_keptRows {source : Source} {table : List Row} {entry : Category × String} :
    entry ∈ keptRows source table ↔ ∃ c ∈ candidates source table, ∃ header, verdict c = .kept header ∧
      categoryOf c header ((containerCodes source.containers c.code).toOption.getD []) = entry := by
  rw [keptRows, keptOf, List.mem_map]
  constructor
  · rintro ⟨⟨c, header⟩, member, same⟩
    obtain ⟨among, kept⟩ := mem_filterMap_headed?_iff.1 member
    exact ⟨c, among, header, kept, same⟩
  · rintro ⟨c, among, header, kept, same⟩
    exact ⟨(c, header), mem_filterMap_headed?_iff.2 ⟨among, kept⟩, same⟩

theorem mem_localsIn {kept : List (Category × String)} {c : Category} (member : c ∈ localsIn kept) :
    ∃ label, (c, label) ∈ kept := by
  obtain ⟨⟨other, label⟩, among, rfl⟩ := List.mem_map.1 member
  exact ⟨label, (List.mem_filter.1 among).1⟩

/-- A group is that of the header of a category that is not local. -/
theorem mem_groupsIn {kept : List (Category × String)} {g : Group} :
    g ∈ groupsIn kept ↔ ∃ entry ∈ kept, (entry.1.bucket == .ofLocal) = false ∧
      groupOf (kept.filter fun entry => !(entry.1.bucket == .ofLocal)) (headerOf entry) = g := by
  rw [groupsIn, groupsOf_eq]
  simp only [List.mem_map, List.mem_eraseDups, List.mem_filter, Bool.not_eq_true']
  constructor
  · rintro ⟨_, ⟨entry, ⟨member, kind⟩, rfl⟩, same⟩
    exact ⟨entry, member, kind, same⟩
  · rintro ⟨entry, member, kind, same⟩
    exact ⟨_, ⟨entry, ⟨member, kind⟩, rfl⟩, same⟩

theorem mem_children {kept : List (Category × String)} {g : Group} (among : g ∈ groupsIn kept)
    {c : Category} (member : c ∈ g.children) : ∃ label, (c, label) ∈ kept := by
  obtain ⟨entry, _, _, rfl⟩ := mem_groupsIn.1 among
  obtain ⟨⟨other, label⟩, inside, rfl⟩ := List.mem_map.1 member
  exact ⟨label, (List.mem_filter.1 (List.mem_filter.1 inside).1).1⟩

/-! ## Writable taxonomies -/

section Source

variable {source : Source} {table : List Row} (writable : HasWritableCodes source table)
include writable

theorem isWritable_of_mem_keptRows {entry : Category × String} (member : entry ∈ keptRows source table) :
    entry.1.IsWritable := by
  obtain ⟨c, among, header, kept, rfl⟩ := mem_keptRows.1 member
  obtain ⟨word, numbered⟩ := writable.codes c among
  refine ⟨word, (verdict_eq_kept kept).2, numbered, fun code container => ?_⟩
  cases found : containerCodes source.containers c.code with
  | error e =>
    simp only [categoryOf, found] at container
    cases container
  | ok codes =>
    simp only [categoryOf, found] at container
    obtain ⟨row, inside, text, filled, rfl⟩ := mem_containerCodes found container
    obtain ⟨noQuote, sameLine⟩ := writable.containers row inside text filled
    exact ⟨noQuote, sameLine, isTrimmed_trim text⟩

theorem headerOf_of_mem_keptRows {entry : Category × String} (member : entry ∈ keptRows source table) :
    IsWord (headerOf entry) ∧ HasNumber (headerOf entry) := by
  obtain ⟨c, among, header, kept, rfl⟩ := mem_keptRows.1 member
  exact writable.headers c among header (verdict_eq_kept kept).1

theorem isWritable_taxonomyOf : (taxonomyOf source table).IsWritable := by
  refine ⟨writable.list, writable.noCode, ?_, ?_, ?_⟩
  · intro g member
    obtain ⟨entry, kept, _, rfl⟩ := mem_groupsIn.1 (mem_inOrder.1 member)
    exact (headerOf_of_mem_keptRows writable kept).1
  · intro g member c child
    obtain ⟨label, kept⟩ := mem_children (mem_inOrder.1 member) child
    exact isWritable_of_mem_keptRows writable kept
  · intro c member
    obtain ⟨label, kept⟩ := mem_localsIn member
    exact isWritable_of_mem_keptRows writable kept

/-- A table with writable codes makes a taxonomy, whatever containers are loaded with it. -/
theorem build_ok (numbered : HasNumberedColumns source.containers) :
    (build source table).outcome = .ok (taxonomyOf source table) := by
  refine build_eq_ok_iff.2 ⟨fun entry _ => containerCodes_ok numbered _, fun g member => ?_, rfl⟩
  obtain ⟨entry, kept, _, rfl⟩ := mem_groupsIn.1 member
  exact (headerOf_of_mem_keptRows writable kept).2

end Source

end Codebook.Taxonomy
