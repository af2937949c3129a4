import Codebook.Export.FileTree
import Codebook.Export.Tables
import Codebook.Report

/-!
# Saving bundles

A bundle is saved in a directory, as one archive or as one file for each artifact. What was written
before an error stays: an archive then holds the artifacts before the one that could not be stored.
-/

namespace Codebook

/-- Why a bundle is not saved. -/
inductive SaveError where
  | file (cause : FileError)
  | table (cause : SpreadsheetError)
  /-- Nothing is left of the name of an entry of an archive. -/
  | emptyEntryName
deriving Repr, DecidableEq

namespace SaveError

/-- The message of an error. -/
def message : SaveError → String
  | file cause => cause.message
  | table cause => cause.message
  | emptyEntryName => "string index out of range"

end SaveError

/-- What saving a bundle comes to: the paths of the files written, and the files as they are then. -/
structure Saved where
  outcome : Except SaveError (List Path)
  tree : FileTree
  events : List Event

namespace Bundle

/-- The content of the file of an artifact. -/
def fileContent (a : Artifact) : Except SpreadsheetError FileContent :=
  match a.content with
  | .text text => .ok (.text text)
  | .table columns sheets => (Spreadsheet.ofTable columns sheets).map .sheets

/-- The name of an artifact in an archive, which ends before the first null character. -/
def entryName (a : Artifact) : Except SaveError String :=
  let chars := a.name.toList.takeWhile (· != Char.ofNat 0)
  if chars.isEmpty then .error .emptyEntryName else .ok (String.ofList chars)

/-- The entry of an artifact in an archive. -/
def entryOf (a : Artifact) : Except SaveError (String × FileContent) := do
  let content ← (fileContent a).mapError SaveError.table
  return (← entryName a, content)

/-- The entries of an archive with artifacts, and the error that ended it early. -/
def entriesOf : List Artifact → List (String × FileContent) × Option SaveError
  | [] => ([], none)
  | a :: rest =>
    match entryOf a with
    | .error e => ([], some e)
    | .ok entry =>
      let (others, ending) := entriesOf rest
      (entry :: others, ending)

/-- Saves a bundle as an archive in a directory that is there. -/
def saveArchive (b : Bundle) (tree : FileTree) (directory : Path) : Saved :=
  let target := directory.join b.archiveName
  let (entries, ending) := entriesOf b.artifacts
  match tree.write target (.archive entries) with
  | .error e => ⟨.error (.file e), tree, []⟩
  | .ok tree =>
    match ending with
    | some e => ⟨.error e, tree, []⟩
    | none =>
      ⟨.ok [target], tree,
        [⟨.info,
          "wrote archive " ++ target.text ++ " (" ++ toString b.artifacts.length ++ " artifacts)"⟩]⟩

/-- Does something with each item in turn, with what the one before has left, until it fails. What is left
before a failure stays. -/
def inTurn {α β σ ε : Type} (act : σ → α → Except ε (β × σ)) (state : σ) :
    List α → Except ε (List β) × σ
  | [] => (.ok [], state)
  | a :: rest =>
    match act state a with
    | .error e => (.error e, state)
    | .ok (result, state) =>
      let (outcome, state) := inTurn act state rest
      (outcome.map (result :: ·), state)

/-- Saves an artifact as a file in a directory that is there. -/
def saveFile (directory : Path) (tree : FileTree) (a : Artifact) : Except SaveError (Path × FileTree) := do
  let content ← (fileContent a).mapError SaveError.table
  let target := directory.join a.name
  let tree ← (tree.write target (.single content)).mapError SaveError.file
  return (target, tree)

/-- Saves artifacts as files in a directory that is there. -/
def saveFiles (directory : Path) (tree : FileTree) (artifacts : List Artifact) :
    Except SaveError (List Path) × FileTree :=
  inTurn (saveFile directory) tree artifacts

/-- Saves a bundle in a directory, which is made if it is not there. -/
def save (b : Bundle) (tree : FileTree) (directory : Path) (archived : Bool) : Saved :=
  match tree.makeDirectory directory with
  | (.error e, tree) => ⟨.error (.file e), tree, []⟩
  | (.ok _, tree) =>
    if archived then b.saveArchive tree directory
    else
      let (outcome, tree) := saveFiles directory tree b.artifacts
      let events : List Event :=
        match outcome with
        | .ok paths =>
          [⟨.info, "wrote " ++ toString paths.length ++ " files to " ++ directory.text⟩]
        | .error _ => []
      ⟨outcome, tree, events⟩

end Bundle

end Codebook
