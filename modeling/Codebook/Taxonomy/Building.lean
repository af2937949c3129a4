import Codebook.Report
import Codebook.Sheet.Flags
import Codebook.Taxonomy.Basic

/-!
# Building the taxonomy

Columns `A` to `E` of the category table hold the label and the code of a category, its definition, and
the label and the code of its header. Only rows whose definition contains the marker count. The
container table links containers, whose codes are in column `D`, to categories by flag columns.

A row without a header code is dropped with an issue, and so is a row that would pass for the open
answer; the open answer itself is passed over, since every taxonomy ends in it anyway.
-/

namespace Codebook.Taxonomy

/-! ## Containers -/

/-- The column of the container codes. -/
def containerColumn : String := "D"

/-- The flag column of a code: of several the last one. -/
def flagColumn? (labels : Row) (code : String) : Except ColumnError (Option String) := do
  let columns ← Row.orderedColumns [labels]
  return columns.reverse.find? fun name => Flags.extractCode (labels.text? name) == code

/-- The codes of the containers that are flagged for a category, each once. -/
def containerCodes (table : List Row) (code : String) : Except ColumnError (List String) := do
  match table with
  | [] => return []
  | labels :: rows =>
    match ← flagColumn? labels code with
    | none => return []
    | some column =>
      let flagged := rows.filter fun row => Flags.isAffirmative (row.text? column)
      return (flagged.filterMap fun row =>
        (row.filled? containerColumn).map Text.trim).eraseDups

/-! ## Rows -/

/-- What a run is told about the taxonomy. -/
structure Source where
  workbook : String
  list : String
  /-- The text that marks the rows that count. -/
  marker : String
  containers : List Row

/-- A row of the category table that counts. -/
structure Candidate where
  label : String
  code : String
  headerLabel : Option String
  headerCode : Option String
deriving Repr, DecidableEq

/-- Whether one list of characters is part of another. -/
def occursIn (part : List Char) : List Char → Bool
  | [] => part.isEmpty
  | c :: rest => part.isPrefixOf (c :: rest) || occursIn part rest

/-- Whether a definition contains the marker, in any case. -/
def isMarked (marker definition : String) : Bool :=
  occursIn (Text.lower marker).toList (Text.lower definition).toList

/-- The candidate of a row, if it has a label, a code and a marked definition. -/
def candidate? (marker : String) (row : Row) : Option Candidate := do
  let label ← row.filled? "A"
  let code ← row.filled? "B"
  let definition ← row.filled? "C"
  if isMarked marker definition then
    some ⟨label, Text.trim code, row.text? "D", (row.filled? "E").map Text.trim⟩
  else none

/-- What becomes of a candidate. -/
inductive Verdict where
  /-- There is no header code. -/
  | unassigned
  /-- The row is the open answer. -/
  | openAnswer
  /-- The row would pass for the open answer. -/
  | clash
  | kept (header : String)
deriving Repr, DecidableEq

/-- The verdict on a candidate. -/
def verdict (c : Candidate) : Verdict :=
  match c.headerCode with
  | none => .unassigned
  | some header =>
    if c.code == openAnswerCode && readsAsOpenAnswer c.label then .openAnswer
    else if c.code == openAnswerCode || (readsAsOpenAnswer c.label && header == localCode) then .clash
    else .kept header

/-- Adds an issue and a warning about a candidate. -/
def warn (source : Source) (kind message event : String) : Report Unit := do
  Report.event .warning (source.list ++ ": " ++ event)
  Report.issue ⟨source.workbook, source.list, -1, kind, message⟩

/-- The categories of candidates that are kept, each with the label of its header. -/
def keep (source : Source) : List Candidate → Report (List (Category × String))
  | [] => return []
  | c :: rest => do
    let shown := "category _" ++ c.code
    match verdict c with
    | .unassigned =>
      warn source "UNASSIGNED_CATEGORY" (shown ++ " '" ++ c.label ++ "' has no parent header code")
        (shown ++ " ('" ++ c.label ++ "') has no header code, dropped")
      keep source rest
    | .openAnswer =>
      Report.event .debug
        (source.list ++ ": source row _" ++ c.code ++ " is the '" ++ openAnswerLabel
          ++ "' entry, emitted once at the end")
      keep source rest
    | .clash =>
      warn source "DUPLICATE_CODE"
        (shown ++ " '" ++ c.label ++ "' clashes with the reserved _" ++ openAnswerCode ++ " '"
          ++ openAnswerLabel ++ "' entry")
        (shown ++ " ('" ++ c.label ++ "') clashes with '" ++ openAnswerLabel ++ "', dropped")
      keep source rest
    | .kept header =>
      let containers ← Report.ofExcept ((containerCodes source.containers c.code).mapError .column)
      let others ← keep source rest
      return (⟨c.code, c.label, some header, containers⟩, c.headerLabel.getD "") :: others

/-! ## Groups -/

/-- The groups with a category added under its header; a new group takes the label. -/
def addToGroups (category : Category) (code label : String) : List Group → List Group
  | [] => [⟨code, label, [category]⟩]
  | group :: rest =>
    if group.code == code then { group with children := group.children ++ [category] } :: rest
    else group :: addToGroups category code label rest

/-- The groups of categories, in the order in which their headers first come. -/
def groupsOf (kept : List (Category × String)) : List Group :=
  kept.foldl
    (fun groups (category, label) => addToGroups category (category.header.getD "") label groups) []

/-- The groups in the order of their keys. -/
def sortGroups (groups : List Group) : Except Text.NumeralError (List Group) := do
  let keyed ← groups.mapM fun g => (Group.key g.code).map fun key => (key, g)
  return (keyed.mergeSort fun a b => a.1.le b.1).map Prod.snd

/-- The taxonomy of a category table, whose first row holds the labels of the columns. -/
def build (source : Source) (table : List Row) : Report Taxonomy := do
  let kept ← keep source ((table.drop 1).filterMap (candidate? source.marker))
  let (locals, others) := kept.partition fun (category, _) => category.bucket == .ofLocal
  let groups ← Report.ofExcept ((sortGroups (groupsOf others)).mapError .numeral)
  let taxonomy : Taxonomy := ⟨source.list, groups, locals.map Prod.fst⟩
  if taxonomy.isEmpty then
    warn source "EMPTY_TAXONOMY" "no diary categories found"
      "no diary categories found, emitting fallback structure only"
  else
    Report.event .debug
      (source.list ++ ": " ++ toString groups.length ++ " header groups, "
        ++ toString taxonomy.categoryCount ++ " categories")
  return taxonomy

end Codebook.Taxonomy
