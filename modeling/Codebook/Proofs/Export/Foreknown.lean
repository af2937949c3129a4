import Codebook.Proofs.Export.Assembly

/-!
# Rows that are read beforehand

For import tables the rows of any of the lists may be handed over, and those of the others are read from
their texts. Of lists with one name the last one counts either way, so the bundle is the same whichever
rows are handed over; only the fragments of lists that are read again are noted again
(`assemble_rowsAmong`).
-/

namespace Codebook.Export

open ImportRow

/-! ## Rows that are handed over -/

/-- The rows of the lists with the given names, among lists that have been read. -/
def rowsAmong (names : List String) (parsed : Keyed String Parsed) : Keyed String (List ImportRow) :=
  (parsed.filter fun p => names.contains p.1).map fun p => (p.1, p.2.rows)

theorem get?_rowsAmong (names : List String) (parsed : Keyed String Parsed) (name : String) :
    (rowsAmong names parsed).get? name =
      if names.contains name then (parsed.get? name).map Parsed.rows else none := by
  rw [rowsAmong, Keyed.get?_map_snd, Keyed.get?_filter]
  split <;> rfl

theorem has_rowsAmong (names : List String) (parsed : Keyed String Parsed) (name : String) :
    (rowsAmong names parsed).has name = (names.contains name && parsed.has name) := by
  rw [rowsAmong, Keyed.has, List.any_map, List.any_filter, Keyed.has, Bool.eq_iff_iff]
  simp only [List.any_eq_true, Function.comp_apply, Bool.and_eq_true, beq_iff_eq]
  constructor
  · rintro ⟨p, member, among, rfl⟩
    exact ⟨among, p, member, rfl⟩
  · rintro ⟨among, p, member, rfl⟩
    exact ⟨p, member, among, rfl⟩

theorem rowsAmong_nil (parsed : Keyed String Parsed) : rowsAmong [] parsed = [] := by
  have none : (parsed.filter fun p => List.contains [] p.1) = [] :=
    List.filter_eq_nil_iff.2 fun p _ => Bool.false_ne_true
  rw [rowsAmong, none, List.map_nil]

/-! ## Tables of rows -/

theorem tableArtifacts_congr {plan : Plan} {rows others : Keyed String (List ImportRow)}
    {blocks : List Block} (same : ∀ block ∈ blocks, rows.get? block.name = others.get? block.name) :
    tableArtifacts plan rows blocks = tableArtifacts plan others blocks := by
  have sheets : ∀ block ∈ blocks, recordsOf rows block = recordsOf others block :=
    fun block member => by rw [recordsOf, same block member, recordsOf]
  unfold tableArtifacts
  simp only
  split
  · rw [List.map_congr_left fun block member => by rw [sheets block member]]
  · exact List.map_congr_left fun block member => by rw [sheets block member]

section Lists

variable {plan : Plan} {blocks : List Block} {workbook : String} {parsed : Keyed String Parsed}

/-- What blocks are read as, under their names. -/
def readAs (reading : Reading) (blocks : List Block) : List (String × Parsed) :=
  blocks.map fun block => (block.name, contents reading block.text)

theorem has_readAs {reading : Reading} {block : Block} (member : block ∈ blocks) :
    (Keyed.ofList (readAs reading blocks)).has block.name = true := by
  rw [Keyed.has_ofList, Keyed.has, readAs, List.any_map, List.any_eq_true]
  exact ⟨block, member, beq_self_eq_true _⟩

/-- The lists that become tables and whose rows are not handed over. -/
def unknown (plan : Plan) (names : List String) (blocks : List Block) : List Block :=
  blocks.filter fun block => isTabular plan block && !names.contains block.name

theorem mem_unknown {names : List String} {block : Block} :
    block ∈ unknown plan names blocks ↔
      block ∈ blocks ∧ isTabular plan block = true ∧ block.name ∉ names := by
  simp [unknown]

/-- Whether a list becomes a table depends on its name only, and so does whether its rows are handed
over. -/
theorem readAs_unknown (names : List String) :
    readAs plan.reading (unknown plan names blocks) =
      (readAs plan.reading blocks).filter fun p =>
        isTabular plan ⟨p.1, []⟩ && !names.contains p.1 := by
  rw [readAs, unknown, readAs, List.filter_map]
  rfl

/-- The lists that are read are those that become tables and are not among the names. -/
theorem filter_not_has_rowsAmong (reading : Reading) (names : List String) :
    ((blocks.filter (isTabular plan)).filter fun block =>
      !(rowsAmong names (Keyed.ofList (readAs reading blocks))).has block.name) =
        unknown plan names blocks := by
  rw [List.filter_filter, unknown]
  refine List.filter_congr fun block member => ?_
  rw [has_rowsAmong, has_readAs member, Bool.and_true, Bool.and_comm]

/-- Whichever rows are handed over, after the other lists are read the rows of each list are those of the
last list with its name. -/
theorem get?_completed (names : List String) {block : Block}
    (member : block ∈ blocks.filter (isTabular plan)) :
    ((rowsAmong names (Keyed.ofList (readAs plan.reading blocks))).putAll
        ((Keyed.ofList (readAs plan.reading (unknown plan names blocks))).map fun p =>
          (p.1, p.2.rows))).get? block.name =
      ((Keyed.ofList (readAs plan.reading blocks)).get? block.name).map Parsed.rows := by
  have tabular : isTabular plan ⟨block.name, []⟩ = true := (List.mem_filter.1 member).2
  have distinct : (((Keyed.ofList (readAs plan.reading (unknown plan names blocks))).map fun p =>
      (p.1, p.2.rows)).map Prod.fst).Nodup := by
    rw [List.map_map]
    exact Keyed.nodup_ofList _
  rw [Keyed.get?_putAll, Keyed.get?_reverse distinct, Keyed.get?_map_snd, readAs_unknown,
    Keyed.get?_ofList_filter fun name => isTabular plan ⟨name, []⟩ && !names.contains name, tabular,
    get?_rowsAmong]
  cases names.contains block.name with
  | true => rfl
  | false => exact Option.or_none

/-- Rows that are handed over are completed without a failure, and only the fragments of the lists that
are read are noted. -/
theorem exists_completeRows
    (read : (parseBlocks plan.reading workbook blocks).outcome = .ok parsed) (names : List String) :
    ∃ rows, (completeRows plan (rowsAmong names parsed) (blocks.filter (isTabular plan))).outcome =
        .ok rows ∧
      (∀ block ∈ blocks.filter (isTabular plan),
        rows.get? block.name = (parsed.get? block.name).map Parsed.rows) ∧
      (completeRows plan (rowsAmong names parsed) (blocks.filter (isTabular plan))).journal.issues =
        (unknown plan names blocks).flatMap fun block =>
          (contents plan.reading block.text).malformed.map (Fragment.issue plan.workbook block.name) := by
  obtain ⟨readable, rfl⟩ := parseBlocks_eq_ok_ofList_iff.1 read
  have others : (parseBlocks plan.reading plan.workbook (unknown plan names blocks)).outcome =
      .ok (Keyed.ofList (readAs plan.reading (unknown plan names blocks))) :=
    parseBlocks_eq_ok_ofList_iff.2 ⟨fun block member => readable block (mem_unknown.1 member).1, rfl⟩
  have completed : (completeRows plan (rowsAmong names (Keyed.ofList (readAs plan.reading blocks)))
      (blocks.filter (isTabular plan))) =
        parseBlocks plan.reading plan.workbook (unknown plan names blocks) >>= fun parsed =>
          pure ((rowsAmong names (Keyed.ofList (readAs plan.reading blocks))).putAll
            (parsed.map fun p => (p.1, p.2.rows))) := by
    rw [completeRows, filter_not_has_rowsAmong]
  refine ⟨_, ?_, fun block member => get?_completed names member, ?_⟩
  · show (completeRows _ (rowsAmong names (Keyed.ofList (readAs plan.reading blocks))) _).outcome = _
    rw [completed, Report.outcome_bind, others]
    rfl
  · show (completeRows _ (rowsAmong names (Keyed.ofList (readAs plan.reading blocks))) _).journal.issues = _
    rw [completed, Report.issues_bind_pure, issues_parseBlocks others]

/-! ## Bundles -/

theorem issues_assemble_ifield (known : Keyed String (List ImportRow)) :
    (assemble plan .ifield known blocks).journal.issues =
      (completeRows plan known (blocks.filter (isTabular plan))).journal.issues :=
  Report.issues_bind_pure _ _

/-- Where lists can be read, the bundle with the rows of any of them handed over is the bundle without;
the issues are the fragments of the lists that are read, and nothing at all is noted if the rows of all
lists that become tables are handed over. -/
theorem assemble_rowsAmong
    (read : (parseBlocks plan.reading workbook blocks).outcome = .ok parsed) (names : List String) :
    ∃ bundle, (assemble plan .ifield [] blocks).outcome = .ok bundle ∧
      (assemble plan .ifield (rowsAmong names parsed) blocks).outcome = .ok bundle ∧
      (assemble plan .ifield (rowsAmong names parsed) blocks).journal.issues =
        (unknown plan names blocks).flatMap (fun block =>
          (contents plan.reading block.text).malformed.map (Fragment.issue plan.workbook block.name)) ∧
      ((∀ block ∈ blocks, isTabular plan block = true → block.name ∈ names) →
        assemble plan .ifield (rowsAmong names parsed) blocks = pure bundle) := by
  obtain ⟨rows, completed, values, issues⟩ := exists_completeRows read names
  obtain ⟨alone, readAll, readValues, _⟩ := exists_completeRows read []
  rw [rowsAmong_nil] at readAll
  have same : tableArtifacts plan alone (blocks.filter (isTabular plan)) =
      tableArtifacts plan rows (blocks.filter (isTabular plan)) :=
    tableArtifacts_congr fun block member => (readValues block member).trans (values block member).symm
  have made := assemble_ifield_eq_ok_iff.2 ⟨rows, completed, rfl⟩
  refine ⟨_, assemble_ifield_eq_ok_iff.2 ⟨alone, readAll, by rw [same]⟩, made,
    (issues_assemble_ifield _).trans issues, fun all => ?_⟩
  have known : ∀ block ∈ blocks, isTabular plan block = true →
      (rowsAmong names parsed).has block.name = true := by
    intro block member tabular
    obtain ⟨_, rfl⟩ := parseBlocks_eq_ok_ofList_iff.1 read
    have present : (Keyed.ofList (readAs plan.reading blocks)).has block.name = true := has_readAs member
    rw [has_rowsAmong, List.contains_iff_mem.2 (all block member tabular)]
    exact present
  obtain ⟨bundle, quiet⟩ := exists_assemble known
  rw [quiet] at made ⊢
  rw [Except.ok.inj made]

end Lists

/-- Lists of which two have one name and each has a fragment. -/
def repeated : List Block :=
  [⟨"MAIN_GB", ["_1 \"Milk\", ] ,"]⟩, ⟨"DIARY_GB", ["_3 \"Tea\", = ,"]⟩,
    ⟨"MAIN_GB", ["_2 \"Water\", [ ] ,"]⟩]

/-- With the rows of one name handed over only the other list is read again, and with the rows of both
names none is. -/
theorem assemble_rowsAmong_repeated :
    ∃ parsed, (parseBlocks separate.reading "" repeated).outcome = .ok parsed ∧
      ∃ bundle, (assemble separate .ifield [] repeated).outcome = .ok bundle ∧
        (assemble separate .ifield (rowsAmong ["MAIN_GB"] parsed) repeated).outcome = .ok bundle ∧
        (assemble separate .ifield (rowsAmong ["MAIN_GB"] parsed) repeated).journal.issues =
          [⟨"codebook.xlsx", "DIARY_GB", 1, "MALFORMED_BLOCK", "unparseable fragment: ="⟩] ∧
        assemble separate .ifield (rowsAmong ["DIARY_GB", "MAIN_GB"] parsed) repeated = pure bundle := by
  have readable : ∀ block ∈ repeated, (parse separate.reading block.text).outcome =
      .ok (contents separate.reading block.text) := by
    decide +kernel
  have read : (parseBlocks separate.reading "" repeated).outcome =
      .ok (Keyed.ofList (readAs separate.reading repeated)) :=
    parseBlocks_eq_ok_ofList_iff.2 ⟨readable, rfl⟩
  have told : (unknown separate ["MAIN_GB"] repeated).flatMap (fun block =>
      (contents separate.reading block.text).malformed.map (Fragment.issue "codebook.xlsx" block.name)) =
        [⟨"codebook.xlsx", "DIARY_GB", 1, "MALFORMED_BLOCK", "unparseable fragment: ="⟩] := by
    decide +kernel
  have both : ∀ block ∈ repeated, isTabular separate block = true →
      block.name ∈ ["DIARY_GB", "MAIN_GB"] := by
    decide +kernel
  obtain ⟨bundle, alone, made, issues, _⟩ := assemble_rowsAmong read ["MAIN_GB"]
  obtain ⟨other, again, _, _, quiet⟩ := assemble_rowsAmong read ["DIARY_GB", "MAIN_GB"]
  obtain rfl : bundle = other := Except.ok.inj (alone.symm.trans again)
  exact ⟨_, read, bundle, alone, made, issues.trans told, quiet both⟩

end Codebook.Export
