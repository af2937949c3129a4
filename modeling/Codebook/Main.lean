import Codebook.CommandLine.Session
import Codebook.Sheet.Exchange

/-!
# The program

Finds the files that a session depends on, runs the session, prints what it prints and writes the files
that it changed. Workbooks and archives are read and written as JSON texts.
-/

namespace Codebook.Program

open CommandLine

/-- The beginnings of a path, the path itself included. -/
def beginnings (path : Path) : List Path :=
  (List.range (path.names.length + 1)).map fun n => { path with names := path.names.take n }

/-- The paths that a session looks at, as far as the files found so far tell. -/
def wanted (args : List String) (surroundings : Variables) (clock : String) (tree : FileTree) :
    List Path :=
  let logs := IssueLog.defaultDirectory
  let always := [Session.variablesFile, logs, logs.join (IssueLog.fileName clock)]
  match Arguments.parse args with
  | .error _ => always
  | .ok arguments =>
    let vars := (Session.variablesIn tree surroundings).toOption.getD surroundings
    let config := Session.configPath arguments vars
    let output :=
      match arguments.outputDirectory, Session.look tree config with
      | some path, _ => beginnings path
      | none, .file content =>
        match Session.readSettings content with
        | .ok settings => beginnings (Path.ofText settings.exporting.outputDirectory)
        | .error _ => []
      | none, _ => []
    always ++ (arguments.workbook.toList.flatMap beginnings ++ beginnings config) ++ output

/-- The content of a file with the text: a workbook if it reads as one. -/
def contentOf (text : String) : StoredContent :=
  match (Json.read? text).bind Spreadsheet.ofDocument? with
  | some sheets => .single (.sheets sheets)
  | none => .single (.text text)

/-- The text of a file. -/
def textOf : StoredContent → String
  | .single (.text text) => text
  | .single (.sheets sheets) => Json.write (Spreadsheet.toDocument sheets)
  | .archive entries =>
    Json.write (.list (entries.map fun (name, content) =>
      match content with
      | .text text => .list [.ofText name, .ofText text]
      | .sheets sheets => .list [.ofText name, Spreadsheet.toDocument sheets]))

/-- The path to a location. -/
def locationText (at_ : Location) : String :=
  if at_.isEmpty then "." else "/".intercalate at_

/-- Adds what is at a path to a tree. -/
def look (tree : FileTree) (path : Path) : IO FileTree := do
  let at_ := FileTree.start path ++ path.names
  try
    let text ← IO.FS.readFile path.text
    return { tree with files := tree.files.put at_ (contentOf text) }
  catch error =>
    match error with
    | .inappropriateType .. => return { tree with directories := at_ :: tree.directories }
    | _ => return tree

/-- Finds the files that a session depends on. -/
def find (args : List String) (surroundings : Variables) (clock : String) : IO FileTree := do
  let vars ← (wanted args surroundings clock .empty).foldlM look .empty
  let config ← (wanted args surroundings clock vars).foldlM look vars
  (wanted args surroundings clock config).foldlM look config

/-- Writes a file and makes the directories above it. -/
def store (at_ : Location) (text : String) : IO Unit := do
  IO.FS.createDirAll (locationText at_.dropLast)
  IO.FS.writeFile (locationText at_) text

/-- Writes the files that differ from those of an earlier tree. -/
def storeChanges (before after : FileTree) : IO Unit :=
  after.files.forM fun (at_, content) =>
    if before.files.get? at_ == some content then return () else store at_ (textOf content)

/-- Ends the program as a session ended. -/
def conclude : Ending → IO UInt32
  | .done code => return code.toUInt32
  | .helped => return 0
  | .misused message => do
    IO.eprintln (Session.complaint message)
    return 2
  | .broken (.variables cause) => do
    IO.eprintln cause.message
    return 1
  | .broken (.config cause) => do
    IO.eprintln cause.message
    return 1
  | .broken (.failure cause) => do
    IO.eprintln cause.message
    return 1
  | .broken (.save cause) => do
    IO.eprintln cause.message
    return 1

end Codebook.Program

open Codebook Codebook.Program in
def main (args : List String) : IO UInt32 := do
  let began ← IO.monoMsNow
  let surroundings ←
    [CommandLine.Session.configVariable, CommandLine.Variables.disablingVariable].filterMapM
      fun name => do return (← IO.getEnv name).map fun value => (name, value)
  let clock := toString began
  let tree ← find args surroundings clock
  let now ← IO.monoMsNow
  let elapsed := Number.real (.ofDecimal false (now - began) (-3))
  let session := CommandLine.Session.run args surroundings tree elapsed clock
  IO.print session.output
  storeChanges tree session.tree
  conclude session.ending
