import Codebook.Proofs.ImportRow.Written

/-!
# Reading back a taxonomy

The definition text of a taxonomy is read as one row for each header and each category, in the order in
which they are written, and the open answer comes last. It makes no difference what the labels are: each
is read back on one line. Nothing is set aside, so a strict reading gives the same rows.
-/

namespace Codebook

open Definition ImportRow Text

/-! ## What is written -/

namespace Category

/-- A category as it is written. -/
def written (c : Category) : WrittenItem :=
  ⟨c.code, c.label, if c.containers.isEmpty then none else some ("ContainersCodes", c.containers)⟩

/-- The row of a category. -/
def row (c : Category) : ImportRow :=
  item c.code (onOneLine c.label)
    (if c.containers.isEmpty then [] else [("ContainersCodes", namesOf c.containers)])

/-- Whether a category can be written and read back: its code is a word other than the code of the open
answer, and a number if it is made of digits. -/
@[mk_iff]
structure IsWritable (c : Category) : Prop where
  code : IsWord c.code
  unreserved : c.code ≠ openAnswerCode
  numbered : HasNumber c.code
  containers : ∀ code ∈ c.containers, IsQuotable code

instance : DecidablePred IsWritable := fun c =>
  decidable_of_iff _ (isWritable_iff c).symm

/-- Whether a category can be written so that nothing in it is taken for structure: its containers stay
inside of their string, but may be read back as others. -/
@[mk_iff]
structure IsLegible (c : Category) : Prop where
  code : IsWord c.code
  unreserved : c.code ≠ openAnswerCode
  numbered : HasNumber c.code
  containers : ∀ code ∈ c.containers, IsEnclosed code

instance : DecidablePred IsLegible := fun c =>
  decidable_of_iff _ (isLegible_iff c).symm

/-- Whether a category is written as one item, whatever rows are made of it. -/
@[mk_iff]
structure IsPlain (c : Category) : Prop where
  code : IsWord c.code
  containers : ∀ code ∈ c.containers, IsEnclosed code

instance : DecidablePred IsPlain := fun c =>
  decidable_of_iff _ (isPlain_iff c).symm

theorem IsLegible.isPlain {c : Category} (legible : c.IsLegible) : c.IsPlain where
  code := legible.code
  containers := legible.containers

theorem IsWritable.isLegible {c : Category} (writable : c.IsWritable) : c.IsLegible where
  code := writable.code
  unreserved := writable.unreserved
  numbered := writable.numbered
  containers := fun code among => (writable.containers code among).isEnclosed

theorem nodeLines_eq (c : Category) : nodeLines c = c.written.lines indent := by
  rw [nodeLines, categoryLines, written, WrittenItem.lines]
  cases c.containers.isEmpty <;> rfl

theorem row_written {c : Category} (writable : c.IsWritable) : c.written.row = c.row := by
  rw [WrittenItem.row, WrittenItem.properties, written, row]
  cases empty : c.containers.isEmpty with
  | true => rfl
  | false =>
    have value := propertyValue_codesValue writable.containers (List.isEmpty_eq_false_iff.1 empty)
    simp only [Bool.false_eq_true, if_false, Option.elim_some, value]

theorem objectName_written (c : Category) : c.written.row.objectName = objectNameOf c.code :=
  item_objectName _ _ _

theorem isReadable_written {c : Category} (plain : c.IsPlain) : c.written.IsReadable := by
  have clause : ∀ clause ∈ c.written.clause, clause = ("ContainersCodes", c.containers) := by
    intro clause member
    rw [written] at member
    cases empty : c.containers.isEmpty with
    | true =>
      simp only [empty, if_true] at member
      cases member
    | false =>
      simp only [empty, Bool.false_eq_true, if_false] at member
      cases member
      rfl
  constructor
  · exact plain.code
  · intro found member
    rw [clause found member]
    exact show IsWord "ContainersCodes" by decide
  · intro found member
    rw [clause found member]
    exact plain.containers

end Category

/-- A group as it is written. -/
def Group.written (g : Group) : WrittenBlock :=
  ⟨g.code, g.label, g.children.map Category.written, .group⟩

/-- The rows of a group. -/
def Group.rows (alcoholic : List String) (g : Group) : List ImportRow :=
  header alcoholic g.code (onOneLine g.label) [] :: g.children.map Category.row

namespace Taxonomy

/-- The local group as it is written, with the open answer at its end. -/
def localBlock (t : Taxonomy) : WrittenBlock :=
  ⟨localCode, localLabel, t.locals.map Category.written ++ [⟨openAnswerCode, openAnswerLabel, none⟩], .fix⟩

/-- The blocks of a taxonomy as they are written. -/
def written (t : Taxonomy) : List WrittenBlock :=
  t.groups.map Group.written ++ [t.localBlock]

/-- The rows of a taxonomy: group by group the header and its categories, then the local header, the
local categories and the open answer. -/
def rows (alcoholic : List String) (t : Taxonomy) : List ImportRow :=
  t.groups.flatMap (Group.rows alcoholic)
    ++ header alcoholic localCode localLabel [] :: (t.locals.map Category.row ++ [openAnswer])

/-- Whether a taxonomy can be written and read back. -/
@[mk_iff]
structure IsWritable (t : Taxonomy) : Prop where
  name : IsWord t.name
  noCode : t.name.toList.head? ≠ some '_'
  groups : ∀ g ∈ t.groups, IsWord g.code
  children : ∀ g ∈ t.groups, ∀ c ∈ g.children, c.IsWritable
  locals : ∀ c ∈ t.locals, c.IsWritable

instance : DecidablePred IsWritable := fun t =>
  decidable_of_iff _ (isWritable_iff t).symm

/-- Whether a taxonomy can be written so that nothing in it is taken for structure. -/
@[mk_iff]
structure IsLegible (t : Taxonomy) : Prop where
  name : IsWord t.name
  noCode : t.name.toList.head? ≠ some '_'
  groups : ∀ g ∈ t.groups, IsWord g.code
  children : ∀ g ∈ t.groups, ∀ c ∈ g.children, c.IsLegible
  locals : ∀ c ∈ t.locals, c.IsLegible

instance : DecidablePred IsLegible := fun t =>
  decidable_of_iff _ (isLegible_iff t).symm

/-- Whether a taxonomy is written as one list, whatever rows are made of it. -/
@[mk_iff]
structure IsPlain (t : Taxonomy) : Prop where
  name : IsWord t.name
  noCode : t.name.toList.head? ≠ some '_'
  groups : ∀ g ∈ t.groups, IsWord g.code
  children : ∀ g ∈ t.groups, ∀ c ∈ g.children, c.IsPlain
  locals : ∀ c ∈ t.locals, c.IsPlain

instance : DecidablePred IsPlain := fun t =>
  decidable_of_iff _ (isPlain_iff t).symm

theorem IsLegible.isPlain {t : Taxonomy} (legible : t.IsLegible) : t.IsPlain where
  name := legible.name
  noCode := legible.noCode
  groups := legible.groups
  children := fun g group c child => (legible.children g group c child).isPlain
  locals := fun c among => (legible.locals c among).isPlain

theorem IsWritable.isLegible {t : Taxonomy} (writable : t.IsWritable) : t.IsLegible where
  name := writable.name
  noCode := writable.noCode
  groups := writable.groups
  children := fun g group c child => (writable.children g group c child).isLegible
  locals := fun c among => (writable.locals c among).isLegible

theorem lines_written_comp : WrittenItem.lines indent ∘ Category.written = nodeLines :=
  (funext Category.nodeLines_eq).symm

theorem groupLines_eq (g : Group) : groupLines g = g.written.lines := by
  rw [groupLines, Group.written, WrittenBlock.lines, List.map_map, lines_written_comp]
  rfl

theorem localLines_eq (t : Taxonomy) : localLines t.locals = t.localBlock.lines := by
  rw [localLines, localBlock, WrittenBlock.lines, List.map_append, List.map_map, lines_written_comp]
  rfl

theorem lines_renderTaxonomy (t : Taxonomy) :
    (renderTaxonomy t).lines = opening t.name ++ t.written.flatMap WrittenBlock.lines ++ [ending] := by
  rw [renderTaxonomy, written, List.flatMap_append, List.flatMap_map, List.flatMap_singleton,
    ← localLines_eq, ← List.append_assoc]
  rw [show (fun g : Group => g.written.lines) = groupLines from (funext groupLines_eq).symm]

theorem isReadable_group {g : Group} (code : IsWord g.code) (children : ∀ c ∈ g.children, c.IsPlain) :
    g.written.IsReadable := by
  refine ⟨code, fun item inside => ?_⟩
  obtain ⟨c, child, rfl⟩ := List.mem_map.1 inside
  exact Category.isReadable_written (children c child)

theorem isReadable_localBlock {t : Taxonomy} (locals : ∀ c ∈ t.locals, c.IsPlain) :
    t.localBlock.IsReadable := by
  refine ⟨show IsWord localCode by decide, fun item inside => ?_⟩
  rcases List.mem_append.1 inside with inside | inside
  · obtain ⟨c, child, rfl⟩ := List.mem_map.1 inside
    exact Category.isReadable_written (locals c child)
  · rw [List.mem_singleton.1 inside]
    exact ⟨by decide, by rintro clause ⟨⟩, by rintro clause ⟨⟩⟩

theorem isReadable_written {t : Taxonomy} (plain : t.IsPlain) :
    ∀ block ∈ t.written, block.IsReadable := by
  intro block member
  rcases List.mem_append.1 member with member | member
  · obtain ⟨g, among, rfl⟩ := List.mem_map.1 member
    exact isReadable_group (plain.groups g among) (plain.children g among)
  · rw [List.mem_singleton.1 member]
    exact isReadable_localBlock plain.locals

theorem tokenize_renderTaxonomy {t : Taxonomy} (plain : t.IsPlain) :
    ∃ line, tokenize (renderTaxonomy t).text =
      .listOpen t.name 1 :: (WrittenBlock.tokensOf 3 t.written ++ [.listClose line]) := by
  rw [Block.text, lines_renderTaxonomy]
  exact ⟨_, WrittenBlock.tokenize_lines plain.name plain.noCode (isReadable_written plain)⟩

/-! ## What is read -/

theorem readsAsOpenAnswer_label : readsAsOpenAnswer openAnswerLabel = true := by
  decide +kernel

theorem isOpenAnswer_openAnswer : openAnswer.isOpenAnswer = true :=
  readsAsOpenAnswer_label

theorem item_openAnswer : item openAnswerCode openAnswerLabel [] = openAnswer := by
  rw [item_eq]
  simp only
  rw [if_pos readsAsOpenAnswer_label]
  rfl

/-- The rows that the text of a taxonomy is read as: they are those of the taxonomy, except that the
containers of a category may be read as others. -/
def readRows (alcoholic : List String) (t : Taxonomy) : List ImportRow :=
  t.groups.flatMap (fun g => g.written.rows alcoholic)
    ++ header alcoholic localCode localLabel []
      :: (t.locals.map (fun c => c.written.row) ++ [openAnswer])

theorem row_comp_written : WrittenItem.row ∘ Category.written = fun c => c.written.row :=
  funext fun c => by rw [Function.comp_apply]

theorem rows_written (alcoholic : List String) (t : Taxonomy) :
    t.written.flatMap (WrittenBlock.rows alcoholic) = t.readRows alcoholic := by
  have closing : WrittenItem.row ⟨openAnswerCode, openAnswerLabel, none⟩ = openAnswer := by
    have label : onOneLine openAnswerLabel = openAnswerLabel := by decide
    have row : WrittenItem.row ⟨openAnswerCode, openAnswerLabel, none⟩ =
        item openAnswerCode (onOneLine openAnswerLabel) [] := rfl
    rw [row, label, item_openAnswer]
  have locals : t.localBlock.rows alcoholic =
      header alcoholic localCode localLabel []
        :: (t.locals.map (fun c => c.written.row) ++ [openAnswer]) := by
    have label : onOneLine localLabel = localLabel := by decide
    rw [localBlock, WrittenBlock.rows, List.map_append, List.map_map, row_comp_written,
      List.map_singleton, closing]
    show header alcoholic localCode (onOneLine localLabel) [] :: _ = _
    rw [label]
  rw [written, List.flatMap_append, List.flatMap_map, List.flatMap_singleton, locals, readRows]

/-- A taxonomy that can be read back is read as its own rows. -/
theorem readRows_eq {t : Taxonomy} (writable : t.IsWritable) (alcoholic : List String) :
    t.readRows alcoholic = t.rows alcoholic := by
  have group : ∀ g ∈ t.groups, g.written.rows alcoholic = g.rows alcoholic := by
    intro g among
    have children : g.children.map (fun c => c.written.row) = g.children.map Category.row :=
      List.map_congr_left fun c child => Category.row_written (writable.children g among c child)
    rw [Group.written, WrittenBlock.rows, List.map_map, row_comp_written, children, Group.rows]
  have locals : t.locals.map (fun c => c.written.row) = t.locals.map Category.row :=
    List.map_congr_left fun c among => Category.row_written (writable.locals c among)
  rw [readRows, rows, locals, List.flatMap_def, List.flatMap_def, List.map_congr_left group]

/-- A row that is read is a header, a category or the open answer. -/
theorem mem_readRows {alcoholic : List String} {t : Taxonomy} {row : ImportRow}
    (member : row ∈ t.readRows alcoholic) :
    row.isHeader = true ∨ openAnswer = row ∨
      ∃ c, (c ∈ t.locals ∨ ∃ g ∈ t.groups, c ∈ g.children) ∧ c.written.row = row := by
  rcases List.mem_append.1 member with member | member
  · obtain ⟨g, among, inside⟩ := List.mem_flatMap.1 member
    rcases List.mem_cons.1 inside with rfl | inside
    · exact .inl rfl
    · obtain ⟨entry, listed, rfl⟩ := List.mem_map.1 inside
      obtain ⟨c, child, rfl⟩ := List.mem_map.1 listed
      exact .inr (.inr ⟨c, .inr ⟨g, among, child⟩, rfl⟩)
  rcases List.mem_cons.1 member with rfl | member
  · exact .inl rfl
  rcases List.mem_append.1 member with member | member
  · obtain ⟨c, child, rfl⟩ := List.mem_map.1 member
    exact .inr (.inr ⟨c, .inl child, rfl⟩)
  · exact .inr (.inl (List.mem_singleton.1 member).symm)

theorem hasLocalHeader_readRows (alcoholic : List String) (t : Taxonomy) :
    hasLocalHeader (t.readRows alcoholic) = true := by
  refine List.any_eq_true.2 ⟨header alcoholic localCode localLabel [], ?_, rfl⟩
  exact List.mem_append_right _ List.mem_cons_self

theorem hasOpenAnswer_readRows (alcoholic : List String) (t : Taxonomy) :
    hasOpenAnswer (t.readRows alcoholic) = true := by
  refine List.any_eq_true.2 ⟨openAnswer, ?_, isOpenAnswer_openAnswer⟩
  exact List.mem_append_right _ (.tail _ (List.mem_append_right _ List.mem_cons_self))

theorem isWritable_category {t : Taxonomy} (writable : t.IsWritable) {c : Category}
    (among : c ∈ t.locals ∨ ∃ g ∈ t.groups, c ∈ g.children) : c.IsWritable := by
  rcases among with among | ⟨g, group, child⟩
  · exact writable.locals c among
  · exact writable.children g group c child

section Legible

variable {t : Taxonomy} (legible : t.IsLegible) (alcoholic : List String)
include legible

theorem isLegible_category {c : Category} (among : c ∈ t.locals ∨ ∃ g ∈ t.groups, c ∈ g.children) :
    c.IsLegible := by
  rcases among with among | ⟨g, group, child⟩
  · exact legible.locals c among
  · exact legible.children g group c child

theorem found_renderTaxonomy :
    (found alcoholic (tokenize (renderTaxonomy t).text)).map Prod.fst = t.readRows alcoholic := by
  obtain ⟨line, tokens⟩ := tokenize_renderTaxonomy legible.isPlain
  rw [tokens, found_frame, WrittenBlock.found_tokensOf, rows_written]

theorem fragmentOf?_renderTaxonomy :
    (tokenize (renderTaxonomy t).text).filterMap fragmentOf? = [] := by
  obtain ⟨line, tokens⟩ := tokenize_renderTaxonomy legible.isPlain
  rw [tokens, fragmentOf?_frame, WrittenBlock.fragmentOf?_tokensOf]

theorem any_isHeaderToken_renderTaxonomy :
    (tokenize (renderTaxonomy t).text).any isHeaderToken = true := by
  obtain ⟨line, tokens⟩ := tokenize_renderTaxonomy legible.isPlain
  have nonempty : t.written ≠ [] := List.append_ne_nil_of_right_ne_nil _ (List.cons_ne_nil _ _)
  rw [tokens, any_isHeaderToken_frame, WrittenBlock.any_isHeaderToken_tokensOf 3 nonempty]

/-- No category of a legible taxonomy claims the code of the open answer. -/
theorem claimsOpenAnswerCode_readRows :
    ∀ row ∈ t.readRows alcoholic, row.claimsOpenAnswerCode = false := by
  intro row member
  rcases mem_readRows member with kind | rfl | ⟨c, among, rfl⟩
  · rw [ImportRow.claimsOpenAnswerCode, kind]
    rfl
  · rw [ImportRow.claimsOpenAnswerCode, isOpenAnswer_openAnswer, Bool.not_true, Bool.and_false]
  · have unreserved := (isLegible_category legible among).unreserved
    rw [WrittenItem.row, item_claimsOpenAnswerCode,
      show c.written.code = c.code from rfl, beq_eq_false_iff_ne.2 unreserved, Bool.false_and]

theorem hasNumber_readRows :
    ∀ row ∈ t.readRows alcoholic, row.isHeader = false → HasNumber row.code := by
  intro row member answer
  rcases mem_readRows member with kind | rfl | ⟨c, among, rfl⟩
  · cases kind.symm.trans answer
  · exact fun _ => ⟨1099, by decide +kernel⟩
  · rw [code_eq c.objectName_written]
    exact (isLegible_category legible among).numbered

/-- The text of a legible taxonomy is read as its rows, placed, and nothing is set aside. -/
theorem outcome_parse_renderTaxonomy (strict : Bool) :
    (parse ⟨alcoholic, strict, none⟩ (renderTaxonomy t).text).outcome =
      .ok ⟨placed (t.readRows alcoholic), []⟩ := by
  have free := claimsOpenAnswerCode_readRows legible alcoholic
  rw [← found_renderTaxonomy legible] at free
  have completes : Reading.completes ⟨alcoholic, strict, none⟩
      (tokenize (renderTaxonomy t).text) = true :=
    any_isHeaderToken_renderTaxonomy legible
  have fragments : fragmentsOf ⟨alcoholic, strict, none⟩ (tokenize (renderTaxonomy t).text) = [] := by
    rw [fragmentsOf, fragmentOf?_renderTaxonomy legible, completes, if_pos rfl, claims_eq_nil free,
      List.append_nil]
  have rows : unplaced ⟨alcoholic, strict, none⟩ (tokenize (renderTaxonomy t).text) =
      t.readRows alcoholic := by
    rw [unplaced, completes, if_pos rfl, completedRows, unclaimed_eq_self free,
      found_renderTaxonomy legible, addLocalHeader, hasLocalHeader_readRows, if_pos rfl,
      addOpenAnswer, hasOpenAnswer_readRows, if_pos rfl]
  rw [parse, ofTokens_eq_ok_iff, rows, fragments]
  exact ⟨fun _ => rfl, hasNumber_readRows legible alcoholic, rfl⟩

end Legible

section Parse

variable {t : Taxonomy} (writable : t.IsWritable) (alcoholic : List String) (strict : Bool)
include writable

/-- The text of a taxonomy is read as the rows of the taxonomy, placed, and nothing is set aside. -/
theorem parse_renderTaxonomy :
    (parse ⟨alcoholic, strict, none⟩ (renderTaxonomy t).text).outcome =
      .ok ⟨placed (t.rows alcoholic), []⟩ := by
  rw [outcome_parse_renderTaxonomy writable.isLegible, readRows_eq writable]

end Parse

/-- A taxonomy whose labels hold all that has a meaning in definition text. -/
def confusing : Taxonomy where
  name := "DIARY_GB"
  groups :=
    [⟨"800", "Wine \"still\", ],", [⟨"801", "_802 \"Red\" \x7b\x7d;", some "800", ["1", "a, b"]⟩]⟩,
      ⟨"x", "\x7d fix", []⟩]
  locals := [⟨"1001", "Local\r\n  cider \"", some localCode, []⟩]

/-- Labels full of quotes, brackets, marks and line breaks are read back in their places. -/
theorem parse_renderTaxonomy_confusing :
    confusing.IsWritable ∧
      (parse ⟨["800"], true, none⟩ (renderTaxonomy confusing).text).outcome =
        .ok ⟨placed (confusing.rows ["800"]), []⟩ ∧
      (placed (confusing.rows ["800"])).map (fun row => (row.objectName, row.text, row.groupId)) =
        [("_800", "Wine \"still\", ],", ""), ("_801", "_802 \"Red\" \x7b\x7d;", "1"),
          ("_x", "\x7d fix", ""), (localName, localLabel, ""), ("_1001", "Local cider \"", "4"),
          (openAnswerName, openAnswerLabel, "4")] := by
  have writable : confusing.IsWritable := by decide +kernel
  exact ⟨writable, parse_renderTaxonomy writable ["800"] true, by decide +kernel⟩

end Taxonomy

end Codebook
