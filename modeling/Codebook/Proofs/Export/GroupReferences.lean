import Codebook.Proofs.Export.Assembly

/-!
# What group references come to

The group of an answer is the position of the first header of its hundred. Of rows with one object name
only the first is exported, so that header is in the sheet unless an answer with its name comes before
it; then the answer stands in its place and no record of the sheet has the position of the group
(`group_of_record`).
-/

namespace Codebook

namespace ImportRow

/-! ## Groups of distinct rows -/

/-- The row that stands under the name of a group: the header itself, or an answer before it. -/
theorem group_of_mem_distinct {rows : List ImportRow} {row : ImportRow}
    (member : row ∈ distinct (placed rows)) (grouped : row.groupId ≠ "") :
    ∃ name position, hundredName? row.code = some name ∧ row.groupId = toString position ∧
      ∃ target ∈ distinct (placed rows), target.objectName = name ∧
        (target.isHeader = true ∧ target.position = position ∨
          target.isHeader = false ∧ target.position < position ∧
            ∀ other ∈ distinct (placed rows), other.position ≠ position) := by
  have sorted := pairwise_position_placed rows
  have among : row ∈ placed rows := List.mem_of_find?_eq_some (mem_distinct.1 member)
  rw [groupId_eq_of_mem_placed among] at grouped ⊢
  obtain ⟨name, header, hundred, first, group⟩ := exists_header_of_groupIdIn grouped
  have inside : header ∈ placed rows := List.mem_of_find?_eq_some first
  have kind := List.find?_some first
  rw [Bool.and_eq_true, beq_iff_eq] at kind
  -- The first row with the name of the header is kept; it comes no later than the header.
  have named : ((placed rows).find? fun other => other.objectName == name).isSome = true :=
    List.find?_isSome.2 ⟨header, inside, beq_iff_eq.2 kind.2⟩
  obtain ⟨target, kept⟩ := Option.isSome_iff_exists.1 named
  have sameName := List.find?_some kept
  have targetName : target.objectName = name := beq_iff_eq.1 sameName
  have targetAmong : target ∈ placed rows := List.mem_of_find?_eq_some kept
  have targetKept : target ∈ distinct (placed rows) := mem_distinct.2 (targetName ▸ kept)
  have noLater := position_le_of_find? sorted kept inside (beq_iff_eq.2 kind.2)
  refine ⟨name, header.position, hundred, group, target, targetKept, targetName, ?_⟩
  cases targetKind : target.isHeader with
  | true =>
    have holds : (target.isHeader && target.objectName == name) = true := by
      rw [targetKind, targetName, beq_self_eq_true, Bool.and_self]
    have noEarlier := position_le_of_find? sorted first targetAmong holds
    exact .inl ⟨rfl, Int.le_antisymm noLater noEarlier⟩
  | false =>
    have different : target ≠ header := by
      rintro rfl
      cases targetKind.symm.trans kind.1
    have earlier : target.position < header.position := by
      refine Int.lt_iff_le_and_ne.2 ⟨noLater, fun same => different ?_⟩
      exact eq_of_position_eq sorted targetAmong inside same
    refine .inr ⟨rfl, earlier, fun other otherKept same => ?_⟩
    have otherAmong : other ∈ placed rows := List.mem_of_find?_eq_some (mem_distinct.1 otherKept)
    obtain rfl : other = header := eq_of_position_eq sorted otherAmong inside same
    exact different (eq_of_mem_distinct targetKept otherKept (targetName.trans kind.2.symm))

end ImportRow

namespace Export

open ImportRow Text

/-! ## Groups of records -/

/-- Whether a group leads to the one record with a name: to a header at the position of the group, or to
an answer that stands before it, and then no record has that position. -/
def GroupLeadsTo (records : List Record) (group name : String) : Prop :=
  ∃ position, group = toString position ∧
    ∃ target ∈ records, HasText "Object Name" name target ∧
      (∀ other ∈ records, HasText "Object Name" name other → other = target) ∧
        (HasText "Display As Header" "1" target ∧ StandsAt position target ∨
          HasText "Display As Header" "0" target ∧ (∃ earlier < position, StandsAt earlier target) ∧
            ∀ other ∈ records, ¬StandsAt position other)

theorem groupLeadsTo_of_mem_distinct {rows : List ImportRow} {row : ImportRow}
    (member : row ∈ distinct (placed rows)) (grouped : row.groupId ≠ "") :
    ∃ name, hundredName? row.code = some name ∧
      GroupLeadsTo ((distinct (placed rows)).map ImportRow.record) row.groupId name := by
  obtain ⟨name, position, hundred, group, target, kept, sameName, leads⟩ :=
    group_of_mem_distinct member grouped
  refine ⟨name, hundred, position, group, target.record, List.mem_map_of_mem kept,
    hasText_objectName.2 sameName, ?_, ?_⟩
  · intro other among named
    obtain ⟨row, otherKept, rfl⟩ := List.mem_map.1 among
    have names := (hasText_objectName.1 named).trans sameName.symm
    rw [eq_of_mem_distinct otherKept kept names]
  · rcases leads with ⟨header, here⟩ | ⟨answer, earlier, absent⟩
    · exact .inl ⟨hasText_header.2 header, standsAt_record.2 here⟩
    · refine .inr ⟨hasText_answer.2 answer, ⟨_, earlier, standsAt_record.2 rfl⟩, ?_⟩
      intro other among there
      obtain ⟨row, otherKept, rfl⟩ := List.mem_map.1 among
      exact absent row otherKept (standsAt_record.1 there)

/-- A record with a group has a code with a number, and its group leads to the record of its sheet that
has the name of the header of that number's hundred. -/
theorem group_of_record {plan : Plan} {blocks : List Block} {bundle : Bundle}
    (ok : (assemble plan .ifield [] blocks).outcome = .ok bundle)
    {artifact : Artifact} (made : artifact ∈ bundle.artifacts)
    {columns : Option (List String)} {sheets : Keyed String (List Record)}
    (content : artifact.content = .table columns sheets)
    {sheet : String × List Record} (among : sheet ∈ sheets)
    {record : Record} (member : record ∈ sheet.2)
    {group : String} (grouped : HasText "Group ID" group record) (nonempty : group ≠ "") :
    ∃ code n, HasText "Object Name" (objectNameOf code) record ∧ isAllDigits code = true ∧
      readNumeral code = .ok n ∧
        GroupLeadsTo sheet.2 group (objectNameOf (toString (n / 100 * 100))) := by
  obtain ⟨rows, known, rfl⟩ := assemble_ifield_eq_ok_iff.1 ok
  rcases List.mem_append.1 made with table | caption
  · obtain ⟨block, _, rfl⟩ := mem_tableArtifacts table content among
    obtain ⟨unplaced, placeable, records⟩ := recordsOf_completeRows known block
    rw [records] at member ⊢
    obtain ⟨row, kept, rfl⟩ := List.mem_map.1 member
    obtain rfl : row.groupId = group := hasText_groupId.1 grouped
    obtain ⟨name, hundred, leads⟩ := groupLeadsTo_of_mem_distinct kept nonempty
    have inside : row ∈ placed unplaced := List.mem_of_find?_eq_some (mem_distinct.1 kept)
    rw [groupId_eq_of_mem_placed inside] at nonempty
    have answer := isHeader_of_groupIdIn nonempty
    obtain ⟨code, named, numbered⟩ := placeable.placed row inside
    rw [code_eq named] at hundred
    obtain ⟨digits, n, read, rfl⟩ := exists_number_of_hundredName? hundred (numbered answer)
    exact ⟨code, n, hasText_objectName.2 named, digits, read, leads⟩
  · obtain ⟨entry, rfl⟩ := mem_captionArtifacts caption content among member
    cases grouped

/-- A list in which an answer comes before the header of its name, and another header without that. -/
def crossed : Block :=
  ⟨"DIARY", ["_100 \"a\", _100 \"b\" \x7b _102 \"c\" \x7d, _200 \"d\" \x7b _201 \"e\" \x7d"]⟩

/-- The rows of that list. -/
def crossedRows : List ImportRow :=
  placed (unplaced separate.reading (Definition.tokenize crossed.text))

theorem outcome_assemble_crossed :
    (assemble separate .ifield [] [crossed]).outcome =
      .ok ⟨.ifield, "GB", "Great Britain",
        [⟨"DIARY.xlsx", .table (some ImportRow.columns)
          [("DIARY", (firsts crossedRows).map ImportRow.record)]⟩]⟩ := by
  have known : (completeRows separate [] [crossed]).outcome = .ok [("DIARY", crossedRows)] := by
    decide +kernel
  have same : distinct crossedRows = firsts crossedRows := distinct_placed _
  rw [← same]
  exact assemble_ifield_eq_ok_iff.2 ⟨_, known, rfl⟩

/-- The group of an answer under an undisputed header leads to that header. -/
theorem group_of_record_undisputed :
    ∃ records, (assemble separate .ifield [] [crossed]).outcome =
        .ok ⟨.ifield, "GB", "Great Britain",
          [⟨"DIARY.xlsx", .table (some ImportRow.columns) [("DIARY", records)]⟩]⟩ ∧
      ∃ record ∈ records, HasText "Object Name" "_201" record ∧ HasText "Group ID" "4" record ∧
        ∃ code n, HasText "Object Name" (objectNameOf code) record ∧ isAllDigits code = true ∧
          readNumeral code = .ok n ∧
            GroupLeadsTo records "4" (objectNameOf (toString (n / 100 * 100))) := by
  refine ⟨_, outcome_assemble_crossed, ?_⟩
  have present : ∃ row ∈ firsts crossedRows, row.objectName = "_201" ∧ row.groupId = "4" := by
    decide +kernel
  obtain ⟨row, member, name, group⟩ := present
  have grouped : HasText "Group ID" "4" row.record := hasText_groupId.2 group
  refine ⟨row.record, List.mem_map_of_mem member, hasText_objectName.2 name, grouped, ?_⟩
  exact group_of_record outcome_assemble_crossed List.mem_cons_self rfl List.mem_cons_self
    (List.mem_map_of_mem member) grouped (by decide)

/-- The group of an answer whose header gave way to another answer is the position of no record. -/
theorem group_without_record :
    ∃ records, (assemble separate .ifield [] [crossed]).outcome =
        .ok ⟨.ifield, "GB", "Great Britain",
          [⟨"DIARY.xlsx", .table (some ImportRow.columns) [("DIARY", records)]⟩]⟩ ∧
      ∃ record ∈ records, HasText "Object Name" "_102" record ∧ HasText "Group ID" "2" record ∧
        ∀ target ∈ records, ∀ position, StandsAt position target → toString position ≠ "2" := by
  refine ⟨_, outcome_assemble_crossed, ?_⟩
  have present : ∃ row ∈ firsts crossedRows, row.objectName = "_102" ∧ row.groupId = "2" := by
    decide +kernel
  have absent : ∀ row ∈ firsts crossedRows, toString row.position ≠ "2" := by decide +kernel
  obtain ⟨row, member, name, group⟩ := present
  refine ⟨row.record, List.mem_map_of_mem member, hasText_objectName.2 name, hasText_groupId.2 group, ?_⟩
  rintro target among position there
  obtain ⟨other, kept, rfl⟩ := List.mem_map.1 among
  rw [← standsAt_record.1 there]
  exact absent other kept

end Export

end Codebook
