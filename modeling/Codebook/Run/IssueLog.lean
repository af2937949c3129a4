import Codebook.Document.Json
import Codebook.Export.FileTree
import Codebook.Report

/-!
# The issue log

Records are held back until they are written to a log file, one JSON text per line. A log has one file. It
is chosen the first time that there is something to write, named for that time, and every writing goes to
its end.
-/

namespace Codebook

/-- The line of an issue in a log file, given its time stamp. -/
def Issue.logLine (stamp : String) (i : Issue) : String :=
  Json.write (.ofFields
    [
      ("timestamp", .ofText stamp), ("workbook", .ofText i.workbook), ("list_name", .ofText i.list),
      ("line", .ofInt i.line), ("issue_type", .ofText i.kind), ("message", .ofText i.message)
    ])

/-- An issue with the time at which it arose. -/
structure StampedIssue where
  stamp : String
  issue : Issue
deriving Repr, DecidableEq

/-- The line of an issue in a log file. -/
def StampedIssue.line (i : StampedIssue) : String :=
  i.issue.logLine i.stamp

/-- A log of records: of issues, as long as the time does not matter. -/
structure IssueLog (ρ : Type := Issue) where
  directory : Path
  /-- The records held back. -/
  buffered : List ρ
  /-- The log file, once there was something to write. -/
  file : Option Path
deriving Repr, DecidableEq

/-- What writing a log comes to: the log file if there was something to write, and the log and the files as
they are then. -/
structure Flushed (ρ : Type) where
  outcome : Except FileError (Option Path)
  log : IssueLog ρ
  tree : FileTree

namespace IssueLog

variable {ρ : Type}

/-- The directory of the log files. -/
def defaultDirectory : Path := ⟨"", ["logs"]⟩

/-- The name of a log file that is begun at a time. -/
def fileName (clock : String) : String :=
  "issues-" ++ clock ++ ".log"

/-- A log to which nothing has come yet. -/
def new (directory : Path) : IssueLog ρ := ⟨directory, [], none⟩

/-- Adds records. -/
def extend (log : IssueLog ρ) (records : List ρ) : IssueLog ρ :=
  { log with buffered := log.buffered ++ records }

/-- Adds a record. -/
def append (log : IssueLog ρ) (record : ρ) : IssueLog ρ :=
  log.extend [record]

/-- The number of records held back. -/
def size (log : IssueLog ρ) : Nat :=
  log.buffered.length

/-- Whether there is something to write. -/
def isPending (log : IssueLog ρ) : Bool :=
  !log.buffered.isEmpty

/-- The log file. A log without one makes its directory and names the file for the time. -/
def place (log : IssueLog ρ) (clock : String) (tree : FileTree) : Except FileError Path × FileTree :=
  match log.file with
  | some path => (.ok path, tree)
  | none =>
    let (made, tree) := tree.makeDirectory log.directory
    (made.map fun _ => log.directory.join (fileName clock), tree)

/-- The text of records, one on each line. -/
def linesOf (lineOf : ρ → String) (records : List ρ) : String :=
  String.join (records.map fun record => lineOf record ++ "\n")

/-- Writes the records that are held back at the end of the log file. If there are none, nothing is done. A
log that cannot be written holds its records back, and keeps the file that was chosen. -/
def flush (lineOf : ρ → String) (log : IssueLog ρ) (clock : String) (tree : FileTree) : Flushed ρ :=
  if !log.isPending then ⟨.ok none, log, tree⟩
  else
    match log.place clock tree with
    | (.error e, tree) => ⟨.error e, log, tree⟩
    | (.ok path, tree) =>
      match tree.appendText path (linesOf lineOf log.buffered) with
      | .error e => ⟨.error e, { log with file := some path }, tree⟩
      | .ok tree => ⟨.ok (some path), { log with buffered := [], file := some path }, tree⟩

end IssueLog

end Codebook
