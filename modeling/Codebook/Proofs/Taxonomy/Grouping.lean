import Codebook.Proofs.ImportRow.Nesting
import Codebook.Proofs.Taxonomy.Exporting

/-!
# Nesting and groups

The text of a taxonomy nests each category under the header of its group, by the text of the header's
code. Reading it back gives a category the header of its hundred, by the number of its own code. Where
the numbers agree the two are the same header exactly if the code of the header is written as the number
is written: without zeros in front and in the digits `0` to `9` (`grouped_iff`).
-/

namespace Codebook

namespace Taxonomy

open Definition ImportRow Text

/-! ## Blocks of a taxonomy -/

/-- The codes of a taxonomy as they are nested: the code of each header with those under it. -/
def nesting (t : Taxonomy) : List (String × List String) :=
  t.groups.map (fun g => (g.code, g.children.map Category.code))
    ++ [(localCode, t.locals.map Category.code ++ [openAnswerCode])]

/-- The rows of a taxonomy as they are nested. -/
def blockRows (alcoholic : List String) (t : Taxonomy) : List (ImportRow × List ImportRow) :=
  t.groups.map (fun g => (header alcoholic g.code (onOneLine g.label) [], g.children.map Category.row))
    ++ [(header alcoholic localCode localLabel [], t.locals.map Category.row ++ [openAnswer])]

theorem rows_eq_flatMap (alcoholic : List String) (t : Taxonomy) :
    t.rows alcoholic = (t.blockRows alcoholic).flatMap fun block => block.1 :: block.2 := by
  rw [blockRows, List.flatMap_append, List.flatMap_map, List.flatMap_singleton]
  rfl

theorem objectName_of_mem_rows {alcoholic : List String} {t : Taxonomy} {row : ImportRow}
    (member : row ∈ t.rows alcoholic) : row.objectName = objectNameOf row.code := by
  have named : ∃ code, row.objectName = objectNameOf code := by
    rcases List.mem_append.1 member with group | last
    · obtain ⟨g, _, inside⟩ := List.mem_flatMap.1 group
      rcases List.mem_cons.1 inside with rfl | child
      · exact ⟨g.code, rfl⟩
      · obtain ⟨c, _, rfl⟩ := List.mem_map.1 child
        exact ⟨c.code, item_objectName ..⟩
    · rcases List.mem_cons.1 last with rfl | inside
      · exact ⟨localCode, rfl⟩
      rcases List.mem_append.1 inside with isLocal | isOpen
      · obtain ⟨c, _, rfl⟩ := List.mem_map.1 isLocal
        exact ⟨c.code, item_objectName ..⟩
      · rw [List.mem_singleton.1 isOpen]
        exact ⟨openAnswerCode, rfl⟩
  obtain ⟨code, name⟩ := named
  rw [code_eq name, name]

theorem code_row (c : Category) : c.row.code = c.code :=
  code_eq (item_objectName ..)

theorem isHeader_row (c : Category) : c.row.isHeader = false :=
  item_isHeader ..

theorem blocksIn_rows (alcoholic : List String) (t : Taxonomy) :
    blocksIn (t.rows alcoholic) = t.blockRows alcoholic := by
  have answers (categories : List Category) : ∀ row ∈ categories.map Category.row, row.isHeader = false :=
    List.forall_mem_map.2 fun c _ => isHeader_row c
  rw [rows_eq_flatMap, blocksIn]
  refine blocksBy_flatMap (fun block member => ?_) fun block member => ?_
  · rcases List.mem_append.1 member with group | last
    · obtain ⟨g, _, rfl⟩ := List.mem_map.1 group
      rfl
    · rw [List.mem_singleton.1 last]
      rfl
  · rcases List.mem_append.1 member with group | last
    · obtain ⟨g, _, rfl⟩ := List.mem_map.1 group
      exact answers g.children
    · rw [List.mem_singleton.1 last]
      exact List.forall_mem_append.2 ⟨answers t.locals, List.forall_mem_singleton.2 rfl⟩

/-- The first row of a taxonomy is a header. -/
theorem takeWhile_rows (alcoholic : List String) (t : Taxonomy) :
    (t.rows alcoholic).takeWhile (fun row => !row.isHeader) = [] := by
  have whole := takeWhile_append_flatMap_blocksBy isHeader (t.rows alcoholic)
  rw [← blocksIn, blocksIn_rows, ← rows_eq_flatMap] at whole
  exact List.append_left_eq_self.1 whole

theorem codes_blockRows (alcoholic : List String) (t : Taxonomy) :
    (t.blockRows alcoholic).map codesOf = t.nesting := by
  have answers (categories : List Category) :
      (categories.map Category.row).map ImportRow.code = categories.map Category.code := by
    rw [List.map_map]
    exact List.map_congr_left fun c _ => by rw [Function.comp_apply, code_row]
  have heading (code label : String) : (header alcoholic code label []).code = code :=
    code_eq (show (header alcoholic code label []).objectName = objectNameOf code from rfl)
  have closing : openAnswer.code = openAnswerCode :=
    code_eq (show openAnswer.objectName = objectNameOf openAnswerCode from rfl)
  rw [blockRows, nesting, List.map_append, List.map_map, List.map_singleton]
  simp only [Function.comp_def, codesOf, heading, closing, answers, List.map_append,
    List.map_singleton]

/-- The text of a taxonomy is read as blocks with its codes, nested as they are in the taxonomy. -/
theorem codes_blocksIn_placed_rows (alcoholic : List String) (t : Taxonomy) :
    (blocksIn (placed (t.rows alcoholic))).map codesOf = t.nesting := by
  rw [codes_blocksIn_placed, blocksIn_rows, codes_blockRows]

/-! ## Codes that agree -/

/-- Whether a code is written as its number is: in the digits `0` to `9`, with no zero in front. -/
def IsPlainNumeral (code : String) : Prop :=
  code = toString (decimalNumber code.toList)

instance : DecidablePred IsPlainNumeral := fun code =>
  inferInstanceAs (Decidable (code = toString (decimalNumber code.toList)))

/-- Whether the number of the code of a header is the hundred of the number of another code. -/
@[mk_iff]
structure Agrees (header code : String) : Prop where
  headerDigits : isAllDigits header = true
  digits : isAllDigits code = true
  hundred : decimalNumber header.toList = decimalNumber code.toList / 100 * 100

instance (header code : String) : Decidable (Agrees header code) :=
  decidable_of_iff _ (agrees_iff header code).symm

/-- The header that the number of a code gives is the one that it agrees with exactly if that one is
written as its number. -/
theorem Agrees.hundredName?_eq_some_iff {header code : String} (agrees : Agrees header code) :
    hundredName? code = some (objectNameOf header) ↔ IsPlainNumeral header := by
  rw [hundredName?, if_pos agrees.digits, ← agrees.hundred, Option.some.injEq, objectNameOf_inj]
  exact eq_comm

section Table

variable {source : Source} {table : List Row}

theorem isLocal_iff_of_mem_keptRows {entry : Category × String} (member : entry ∈ keptRows source table) :
    (entry.1.bucket == .ofLocal) = true ↔ headerOf entry = localCode := by
  obtain ⟨c, _, header, _, rfl⟩ := mem_keptRows.1 member
  rw [beq_iff_eq, Category.bucket]
  show (if some header == some localCode then Bucket.ofLocal else .normal) = .ofLocal ↔ header = localCode
  by_cases same : header = localCode
  · rw [same]
    exact iff_of_true rfl rfl
  · rw [if_neg (by simpa using same)]
    exact iff_of_false nofun same

/-- What is nested in a taxonomy: the categories that are kept under their headers, and the open answer
under the local one. -/
theorem mem_nesting_iff {header code : String} :
    (∃ block ∈ (taxonomyOf source table).nesting, block.1 = header ∧ code ∈ block.2) ↔
      (∃ kept ∈ (candidates source table).filterMap headed?, kept.2 = header ∧ kept.1.code = code) ∨
        header = localCode ∧ code = openAnswerCode := by
  have known {entry : Category × String} (member : entry ∈ keptRows source table) :
      ∃ kept ∈ (candidates source table).filterMap headed?,
        kept.2 = headerOf entry ∧ kept.1.code = entry.1.code := by
    obtain ⟨c, among, header, kept, rfl⟩ := mem_keptRows.1 member
    exact ⟨(c, header), mem_filterMap_headed?_iff.2 ⟨among, kept⟩, rfl, rfl⟩
  constructor
  · rintro ⟨block, member, rfl, inside⟩
    rcases List.mem_append.1 member with group | last
    · obtain ⟨g, among, rfl⟩ := List.mem_map.1 group
      obtain ⟨c, child, rfl⟩ := List.mem_map.1 inside
      obtain ⟨first, _, _, rfl⟩ := mem_groupsIn.1 (mem_inOrder.1 among)
      obtain ⟨entry, under, rfl⟩ := List.mem_map.1 child
      obtain ⟨other, same⟩ := List.mem_filter.1 under
      have here := known (List.mem_filter.1 other).1
      rw [beq_iff_eq.1 same] at here
      exact .inl here
    · rw [List.mem_singleton.1 last] at inside ⊢
      rcases List.mem_append.1 inside with isLocal | isOpen
      · obtain ⟨c, among, rfl⟩ := List.mem_map.1 isLocal
        obtain ⟨entry, inLocals, rfl⟩ := List.mem_map.1 among
        obtain ⟨kept, bucket⟩ := List.mem_filter.1 inLocals
        have here := known kept
        rw [(isLocal_iff_of_mem_keptRows kept).1 bucket] at here
        exact .inl here
      · exact .inr ⟨rfl, List.mem_singleton.1 isOpen⟩
  · rintro (⟨⟨c, header⟩, member, rfl, rfl⟩ | ⟨rfl, rfl⟩)
    · obtain ⟨among, kept⟩ := mem_filterMap_headed?_iff.1 member
      have entry := mem_keptRows.2 ⟨c, among, header, kept, rfl⟩
      have bucket := isLocal_iff_of_mem_keptRows entry
      generalize made : categoryOf c header _ = category at entry bucket
      have code : category.1.code = c.code := made ▸ rfl
      have under : headerOf category = header := made ▸ rfl
      by_cases isLocal : (category.1.bucket == .ofLocal) = true
      · refine ⟨_, List.mem_append_right _ List.mem_cons_self, ?_, ?_⟩
        · exact (bucket.1 isLocal).symm.trans under
        · refine List.mem_append_left _ (List.mem_map.2 ⟨category.1, ?_, code⟩)
          exact List.mem_map_of_mem (List.mem_filter.2 ⟨entry, isLocal⟩)
      · have other : (category.1.bucket == .ofLocal) = false := Bool.not_eq_true _ ▸ isLocal
        refine ⟨_, List.mem_append_left _ (List.mem_map_of_mem (mem_inOrder.2
          (mem_groupsIn.2 ⟨category, entry, other, rfl⟩))), under, ?_⟩
        refine List.mem_map.2 ⟨category.1, List.mem_map_of_mem ?_, code⟩
        exact List.mem_filter.2 ⟨List.mem_filter.2 ⟨entry, by rw [other]; rfl⟩, beq_self_eq_true _⟩
    · exact ⟨_, List.mem_append_right _ List.mem_cons_self, rfl,
        List.mem_append_right _ List.mem_cons_self⟩

/-- No two headers of a taxonomy have one code. -/
theorem nodup_nesting : ((taxonomyOf source table).nesting.map Prod.fst).Nodup := by
  have codes : ((taxonomyOf source table).groups.map Group.code).Nodup := by
    have ordered : (taxonomyOf source table).groups.Perm (groupsIn (keptRows source table)) :=
      List.mergeSort_perm ..
    rw [(ordered.map Group.code).nodup_iff, groupsIn, groupsOf_eq, List.map_map]
    show (List.map id _).Nodup
    rw [List.map_id]
    exact nodup_eraseDups _
  rw [nesting, List.map_append, List.map_map, List.map_singleton]
  refine List.nodup_append.2 ⟨codes, List.nodup_singleton _, ?_⟩
  rintro code member other last rfl
  obtain ⟨g, among, rfl⟩ := List.mem_map.1 member
  obtain ⟨entry, kept, other, rfl⟩ := mem_groupsIn.1 (mem_inOrder.1 among)
  have same : headerOf entry = localCode := List.mem_singleton.1 last
  rw [(isLocal_iff_of_mem_keptRows kept).2 same] at other
  cases other

end Table

/-! ## Groups of categories -/

/-- Whether the numbers of the codes that are kept agree with those of their headers. -/
def HasAgreeingCodes (source : Source) (table : List Row) : Prop :=
  ∀ kept ∈ (candidates source table).filterMap headed?, Agrees kept.2 kept.1.code

instance (source : Source) (table : List Row) : Decidable (HasAgreeingCodes source table) :=
  inferInstanceAs (Decidable (∀ kept ∈ _, _))

/-- Whether each answer of a block has the position of the header of the block as its group. -/
def IsGrouped (block : ImportRow × List ImportRow) : Prop :=
  ∀ row ∈ block.2, row.groupId = toString block.1.position

instance : DecidablePred IsGrouped := fun block =>
  inferInstanceAs (Decidable (∀ row ∈ block.2, _))

section Table

variable {source : Source} {table : List Row} (agreeing : HasAgreeingCodes source table)
include agreeing

theorem agrees_of_mem_nesting {block : String × List String}
    (member : block ∈ (taxonomyOf source table).nesting) {code : String} (inside : code ∈ block.2) :
    Agrees block.1 code := by
  rcases mem_nesting_iff.1 ⟨block, member, rfl, inside⟩ with ⟨kept, among, header, rfl⟩ | ⟨header, rfl⟩
  · rw [← header]
    exact agreeing kept among
  · rw [header]
    decide +kernel

/-- An answer has the position of its own header as its group exactly if the code of the header is
written as its number. -/
theorem groupId_iff_of_mem_block {alcoholic : List String} {block : ImportRow × List ImportRow}
    (member : block ∈ blocksIn (placed ((taxonomyOf source table).rows alcoholic)))
    {row : ImportRow} (inside : row ∈ block.2) :
    row.groupId = toString block.1.position ↔ IsPlainNumeral block.1.code := by
  generalize made : placed ((taxonomyOf source table).rows alcoholic) = rows at member
  have codes : (blocksIn rows).map codesOf = (taxonomyOf source table).nesting :=
    made ▸ codes_blocksIn_placed_rows alcoholic _
  have named : ∀ row ∈ rows, row.objectName = objectNameOf row.code := by
    subst made
    intro row among
    obtain ⟨original, known, place, rfl⟩ := exists_of_mem_placed among
    have name := objectName_of_mem_rows known
    exact name
  have headers : (blocksIn rows).map Prod.fst = rows.filter isHeader := map_fst_blocksBy ..
  have opens := List.mem_filter.1 (headers ▸ List.mem_map_of_mem member : block.1 ∈ rows.filter isHeader)
  have answer := mem_of_mem_blocksBy member inside
  have distinct : ((rows.filter isHeader).map objectName).Nodup := by
    have names : (rows.filter isHeader).map objectName =
        ((taxonomyOf source table).nesting.map Prod.fst).map objectNameOf := by
      rw [← codes, ← headers, List.map_map, List.map_map, List.map_map]
      refine List.map_congr_left fun other among => ?_
      have here := headers ▸ List.mem_map_of_mem among
      exact named _ (List.mem_filter.1 here).1
    rw [names]
    exact nodup_nesting.map fun a b => objectNameOf_inj.1
  have agrees : Agrees block.1.code row.code := by
    have nested : codesOf block ∈ (taxonomyOf source table).nesting := codes ▸ List.mem_map_of_mem member
    exact agrees_of_mem_nesting agreeing nested (List.mem_map_of_mem inside)
  subst made
  rw [groupId_eq_position_iff distinct opens.1 opens.2 answer.1 answer.2, named _ opens.1]
  exact agrees.hundredName?_eq_some_iff

/-- All blocks are grouped exactly if the codes of all headers are written as their numbers. -/
theorem isGrouped_iff (alcoholic : List String) :
    (∀ block ∈ blocksIn (placed ((taxonomyOf source table).rows alcoholic)), IsGrouped block) ↔
      ∀ kept ∈ (candidates source table).filterMap headed?, IsPlainNumeral kept.2 := by
  have codes := codes_blocksIn_placed_rows alcoholic (taxonomyOf source table)
  constructor
  · intro grouped kept member
    obtain ⟨block, nested, header, inside⟩ := mem_nesting_iff.2 (.inl ⟨kept, member, rfl, rfl⟩)
    rw [← codes] at nested
    obtain ⟨rows, among, rfl⟩ := List.mem_map.1 nested
    obtain ⟨row, under, _⟩ := List.mem_map.1 inside
    rw [← header]
    exact (groupId_iff_of_mem_block agreeing among under).1 (grouped rows among row under)
  · intro plain block among row under
    rw [groupId_iff_of_mem_block agreeing among under]
    have nested : codesOf block ∈ (taxonomyOf source table).nesting := codes ▸ List.mem_map_of_mem among
    rcases mem_nesting_iff.1 ⟨_, nested, rfl, List.mem_map_of_mem under⟩ with
      ⟨kept, member, header, _⟩ | ⟨header, _⟩
    · have same : kept.2 = block.1.code := header
      exact same ▸ plain kept member
    · have same : block.1.code = localCode := header
      rw [same]
      decide +kernel

end Table

/-- A table whose codes can be written and agree is built and written, and its text is read as the blocks
of its taxonomy. An answer has the position of the header of its block as its group exactly if the code
of that header is written as its number; so all have exactly if all codes of headers are. -/
theorem grouped_iff {source : Source} {table : List Row} (writable : HasWritableCodes source table)
    (agreeing : HasAgreeingCodes source table) {workbook : Workbook} {sheet : String} {offset : Number}
    (loaded : Table.load workbook sheet offset = .ok source.containers) (alcoholic : List String)
    (strict : Bool) :
    ∃ t parsed, (build source table).outcome = .ok t ∧
      (parse ⟨alcoholic, strict, none⟩ (renderTaxonomy t).text).outcome = .ok parsed ∧
      parsed.malformed = [] ∧
      (blocksIn parsed.rows).flatMap (fun block => block.1 :: block.2) = parsed.rows ∧
      (blocksIn parsed.rows).map codesOf = t.nesting ∧
      (∀ block ∈ blocksIn parsed.rows, ∀ row ∈ block.2,
        (row.groupId = toString block.1.position ↔ IsPlainNumeral block.1.code)) ∧
      ((∀ block ∈ blocksIn parsed.rows, IsGrouped block) ↔
        ∀ kept ∈ (candidates source table).filterMap headed?, IsPlainNumeral kept.2) := by
  have built := build_ok writable (hasNumberedColumns_load loaded)
  have readable := isWritable_taxonomyOf writable
  have parsed := outcome_parse_renderTaxonomy readable.isLegible alcoholic strict
  rw [readRows_eq readable] at parsed
  refine ⟨_, _, built, parsed, rfl, flatMap_blocksIn_placed (takeWhile_rows alcoholic _),
    codes_blocksIn_placed_rows alcoholic _, ?_, isGrouped_iff agreeing alcoholic⟩
  exact fun block member row inside => groupId_iff_of_mem_block agreeing member inside

/-- A category under a header with a plain code has it as its group, and so has the open answer. -/
theorem grouped_iff_sole :
    HasWritableCodes sole (soleCategory "1100") ∧ HasAgreeingCodes sole (soleCategory "1100") ∧
      Table.load [("Boxes", flagged)] "Boxes" (.whole 0) = .ok sole.containers ∧
      ∃ t parsed, (build sole (soleCategory "1100")).outcome = .ok t ∧
        (parse ⟨[], true, none⟩ (renderTaxonomy t).text).outcome = .ok parsed ∧
        (blocksIn parsed.rows).map codesOf = [("1100", ["1101"]), (localCode, [openAnswerCode])] ∧
        ∀ block ∈ blocksIn parsed.rows, IsGrouped block := by
  have writable : HasWritableCodes sole (soleCategory "1100") := by decide +kernel
  have agreeing : HasAgreeingCodes sole (soleCategory "1100") := by decide +kernel
  have loaded : Table.load [("Boxes", flagged)] "Boxes" (.whole 0) = .ok sole.containers := rfl
  have plain : ∀ kept ∈ (candidates sole (soleCategory "1100")).filterMap headed?,
      IsPlainNumeral kept.2 := by decide +kernel
  obtain ⟨t, parsed, built, read, _, _, codes, _, grouped⟩ :=
    grouped_iff writable agreeing loaded [] true
  cases built.symm.trans (build_ok writable (hasNumberedColumns_load loaded))
  have nesting : (taxonomyOf sole (soleCategory "1100")).nesting =
      [("1100", ["1101"]), (localCode, [openAnswerCode])] := by decide +kernel
  exact ⟨writable, agreeing, loaded, _, parsed, built, read, codes.trans nesting, grouped.2 plain⟩

/-- Under a header whose code has a zero in front a category has no group. -/
theorem not_grouped_padded :
    HasWritableCodes sole (soleCategory "01100") ∧ HasAgreeingCodes sole (soleCategory "01100") ∧
      Table.load [("Boxes", flagged)] "Boxes" (.whole 0) = .ok sole.containers ∧
      ∃ t parsed, (build sole (soleCategory "01100")).outcome = .ok t ∧
        (parse ⟨[], true, none⟩ (renderTaxonomy t).text).outcome = .ok parsed ∧
        parsed.rows.map (fun row => (row.objectName, row.isHeader, row.position, row.groupId)) =
          [("_01100", true, 1, ""), ("_1101", false, 2, ""), (localName, true, 3, ""),
            (openAnswerName, false, 4, "3")] ∧
        ¬∀ block ∈ blocksIn parsed.rows, IsGrouped block := by
  have writable : HasWritableCodes sole (soleCategory "01100") := by decide +kernel
  have agreeing : HasAgreeingCodes sole (soleCategory "01100") := by decide +kernel
  have loaded : Table.load [("Boxes", flagged)] "Boxes" (.whole 0) = .ok sole.containers := rfl
  have readable := isWritable_taxonomyOf writable
  have parsed := outcome_parse_renderTaxonomy readable.isLegible [] true
  rw [readRows_eq readable] at parsed
  refine ⟨writable, agreeing, loaded, _, _, build_ok writable (hasNumberedColumns_load loaded), parsed,
    by decide +kernel, ?_⟩
  rw [isGrouped_iff agreeing]
  decide +kernel

end Taxonomy

end Codebook
