import Codebook.Proofs.ImportRow.Distinct
import Codebook.Proofs.ImportRow.Written
import Mathlib.Data.List.Nodup

/-!
# Reading back a catalog

The definition text of a catalog is read as one answer for each entry, in the order of the entries
(`parse_renderCatalog`). There is no header in it, so no row belongs to a group and none is added, not
even where the codes of the local header and the open answer are codes of entries.
-/

namespace Codebook

open Definition ImportRow Text

/-! ## What is written -/

namespace Entry

/-- An entry as it is written. -/
def written (e : Entry) : WrittenItem :=
  ⟨e.code, e.label, some ("CategoryCode", e.categories)⟩

/-- The row of an entry at a place of its catalog, counted from 0. Only a label that reads as the open
answer makes a difference to the settings. -/
def row (place : Nat) (e : Entry) : ImportRow where
  text := onOneLine e.label
  objectName := objectNameOf e.code
  isHeader := false
  noFilter := "0"
  properties := [("CategoryCode", namesOf e.categories)]
  position := (place + 1 : Nat)
  groupId := ""
  settings :=
    if readsAsOpenAnswer (onOneLine e.label) then settingDefaults.putAll openAnswerSettings
    else settingDefaults

/-- Whether an entry can be written and read back: its code is a word, and a number if it is made of
digits, and it belongs to a category. -/
@[mk_iff]
structure IsWritable (e : Entry) : Prop where
  code : IsWord e.code
  numbered : HasNumber e.code
  nonempty : e.categories ≠ []
  categories : ∀ code ∈ e.categories, IsQuotable code

instance : DecidablePred IsWritable := fun e =>
  decidable_of_iff _ (isWritable_iff e).symm

/-- Whether an entry is written as one item, whatever row is made of it. -/
@[mk_iff]
structure IsPlain (e : Entry) : Prop where
  code : IsWord e.code
  categories : ∀ code ∈ e.categories, IsEnclosed code

instance : DecidablePred IsPlain := fun e =>
  decidable_of_iff _ (isPlain_iff e).symm

theorem IsWritable.isPlain {e : Entry} (writable : e.IsWritable) : e.IsPlain where
  code := writable.code
  categories := fun code among => (writable.categories code among).isEnclosed

theorem entryLines_eq (e : Entry) : entryLines e = e.written.lines "" := by
  have heading : "" ++ heading e.code e.label = heading e.code e.label := String.empty_append
  rw [written, WrittenItem.lines, heading]
  rfl

theorem isReadable_written {e : Entry} (plain : e.IsPlain) : e.written.IsReadable where
  code := plain.code
  key := by
    rintro clause ⟨⟩
    exact show IsWord "CategoryCode" by decide
  enclosed := by
    rintro clause ⟨⟩
    exact plain.categories

/-- The row that an entry is read as is its row but for the position. -/
theorem row_written {e : Entry} (writable : e.IsWritable) (place : Nat) :
    { e.written.row with position := (place + 1 : Nat), groupId := "" } = e.row place := by
  have properties : e.written.properties = [("CategoryCode", namesOf e.categories)] := by
    have value := propertyValue_codesValue writable.categories writable.nonempty
    rw [← value]
    rfl
  rw [WrittenItem.row, properties, item_eq, row]
  simp only
  rw [show e.written.label = e.label from rfl]
  cases readsAsOpenAnswer (onOneLine e.label) <;> rfl

end Entry

namespace Catalog

/-- The rows of a catalog. -/
def rows (c : Catalog) : List ImportRow :=
  c.entries.zipIdx.map fun (e, place) => e.row place

/-- Whether a catalog can be written and read back. -/
@[mk_iff]
structure IsWritable (c : Catalog) : Prop where
  name : IsWord c.name
  noCode : c.name.toList.head? ≠ some '_'
  entries : ∀ e ∈ c.entries, e.IsWritable

instance : DecidablePred IsWritable := fun c =>
  decidable_of_iff _ (isWritable_iff c).symm

/-- Whether a catalog is written as one list, whatever rows are made of it. -/
@[mk_iff]
structure IsPlain (c : Catalog) : Prop where
  name : IsWord c.name
  noCode : c.name.toList.head? ≠ some '_'
  entries : ∀ e ∈ c.entries, e.IsPlain

instance : DecidablePred IsPlain := fun c =>
  decidable_of_iff _ (isPlain_iff c).symm

theorem IsWritable.isPlain {c : Catalog} (writable : c.IsWritable) : c.IsPlain where
  name := writable.name
  noCode := writable.noCode
  entries := fun e among => (writable.entries e among).isPlain

theorem lines_renderCatalog (c : Catalog) :
    (renderCatalog c).lines =
      opening c.name ++ joinEntries ((c.entries.map Entry.written).map (WrittenItem.lines ""))
        ++ [ending] := by
  have entry : entryLines = WrittenItem.lines "" ∘ Entry.written := funext Entry.entryLines_eq
  rw [renderCatalog, entry, List.map_map]

theorem tokenize_renderCatalog {c : Catalog} (plain : c.IsPlain) :
    ∃ line, tokenize (renderCatalog c).text =
      .listOpen c.name 1
        :: (WrittenBlock.itemTokens 3 (c.entries.map Entry.written) ++ [.listClose line]) := by
  have readable : ∀ item ∈ c.entries.map Entry.written, item.IsReadable := by
    intro item member
    obtain ⟨e, among, rfl⟩ := List.mem_map.1 member
    exact Entry.isReadable_written (plain.entries e among)
  rw [Block.text, lines_renderCatalog]
  exact ⟨_, WrittenItem.tokenize_lines plain.name plain.noCode readable⟩

/-! ## What is read -/

/-- The rows that the text of a catalog is read as, before they have positions. -/
def readRows (c : Catalog) : List ImportRow :=
  (c.entries.map Entry.written).map WrittenItem.row

theorem isHeader_of_mem_readRows {c : Catalog} {row : ImportRow} (member : row ∈ c.readRows) :
    row.isHeader = false := by
  obtain ⟨_, _, rfl⟩ := List.mem_map.1 member
  exact item_isHeader ..

theorem map_objectName_rows (c : Catalog) :
    c.rows.map objectName = (c.entries.map Entry.code).map objectNameOf := by
  have entries : c.entries.zipIdx.map Prod.fst = c.entries := List.zipIdx_map_fst 0 c.entries
  rw [rows, List.map_map, List.map_map]
  conv_rhs => rw [← entries, List.map_map]
  rfl

section Parse

variable {c : Catalog} (writable : c.IsWritable)
include writable

/-- The rows that are read are the rows of the catalog, once they are placed. -/
theorem placed_readRows : placed c.readRows = c.rows := by
  rw [placed_of_answers fun row => isHeader_of_mem_readRows, readRows, number, rows]
  simp only [List.zipIdx_map, List.map_map]
  refine List.map_congr_left ?_
  rintro ⟨e, place⟩ member
  have row := Entry.row_written (writable.entries e (List.fst_mem_of_mem_zipIdx member)) place
  simp only [Function.comp_apply, Prod.map, id]
  exact row

theorem hasNumber_readRows : ∀ row ∈ c.readRows, HasNumber row.code := by
  intro row member
  obtain ⟨item, listed, rfl⟩ := List.mem_map.1 member
  obtain ⟨e, among, rfl⟩ := List.mem_map.1 listed
  have code : e.written.row.code = e.code := code_eq (item_objectName ..)
  rw [code]
  exact (writable.entries e among).numbered

/-- The text of a catalog is read as the rows of the catalog, strictly or not, and nothing is set aside;
none of them is lost as a repetition if the codes are distinct. -/
theorem parse_renderCatalog (alcoholic : List String) (strict : Bool) :
    (parse ⟨alcoholic, strict, none⟩ (renderCatalog c).text).outcome = .ok ⟨c.rows, []⟩ ∧
      ((c.entries.map Entry.code).Nodup → distinct c.rows = c.rows) := by
  obtain ⟨line, tokens⟩ := tokenize_renderCatalog writable.isPlain
  have rows : (found alcoholic (tokenize (renderCatalog c).text)).map Prod.fst = c.readRows := by
    rw [tokens, found_frame, WrittenBlock.found_itemTokens, readRows]
  -- without a header nothing is made sure of, so the reserved codes are codes like all others
  have completes : Reading.completes ⟨alcoholic, strict, none⟩
      (tokenize (renderCatalog c).text) = false := by
    show (tokenize (renderCatalog c).text).any isHeaderToken = false
    rw [tokens, any_isHeaderToken_frame, WrittenBlock.any_isHeaderToken_itemTokens]
  have fragments : fragmentsOf ⟨alcoholic, strict, none⟩ (tokenize (renderCatalog c).text) = [] := by
    rw [fragmentsOf, completes, tokens, fragmentOf?_frame, WrittenBlock.fragmentOf?_itemTokens]
    rfl
  have unplaced : unplaced ⟨alcoholic, strict, none⟩ (tokenize (renderCatalog c).text) =
      c.readRows := by
    rw [ImportRow.unplaced, completes, if_neg Bool.false_ne_true, rows]
  constructor
  · rw [parse, ofTokens_eq_ok_iff, unplaced, fragments, placed_readRows writable]
    exact ⟨fun _ => rfl, fun row member _ => hasNumber_readRows writable row member, rfl⟩
  · intro codes
    have names : (c.rows.map objectName).Nodup := by
      rw [map_objectName_rows]
      exact List.Nodup.map (fun a b => objectNameOf_inj.1) codes
    rw [← placed_readRows writable, distinct_placed, placed_readRows writable, firsts_eq_self names]

end Parse

/-- A catalog whose labels hold all that has a meaning in definition text, with the codes of the local
header and of the open answer. -/
def confusing : Catalog where
  name := "MAIN_GB"
  entries :=
    [⟨"1000", "\"], _12 \"\"x\"\" \x7b", ["1101", "1102"], false⟩,
      ⟨"1099", "Wine \r\n\n \"red\"", ["\x7d, a"], false⟩,
      ⟨"a", " other (SPECIFY)\n", ["1101"], true⟩]

/-- Labels full of quotes, brackets, marks and line breaks are read back in their places. -/
theorem parse_renderCatalog_confusing :
    confusing.IsWritable ∧
      (parse ⟨[], true, none⟩ (renderCatalog confusing).text).outcome = .ok ⟨confusing.rows, []⟩ ∧
      distinct confusing.rows = confusing.rows ∧
      confusing.rows.map (fun row => (row.objectName, row.text, row.setting "Open Ended" "")) =
        [("_1000", "\"], _12 \"\"x\"\" \x7b", "0"), ("_1099", "Wine \"red\"", "0"),
          ("_a", " other (SPECIFY) ", "1")] := by
  have writable : confusing.IsWritable := by decide +kernel
  have read := parse_renderCatalog writable [] true
  exact ⟨writable, read.1, read.2 (by decide), by decide +kernel⟩

end Catalog

end Codebook
