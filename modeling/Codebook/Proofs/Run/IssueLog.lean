import Codebook.Proofs.Document.Json
import Codebook.Proofs.Export.FileTree
import Codebook.Run.IssueLog

/-!
# What an issue log has written

Whatever has come to a log, and whenever it was written: the lines that it has put at the end of its file and
the records that it still holds back are all records that ever came, in their order. The file is chosen once,
by the first writing that has something to write; until then nothing changes in the tree (`kept_of_reaches`).
-/

namespace Codebook.IssueLog

/-! ## Histories -/

/-- What happens to a log: records come to it, or it is written and tells its file if there was something to
write. -/
inductive LogEvent (ρ : Type) where
  | added (records : List ρ)
  | flushed (path : Option Path)

/-- The records that come to a log. -/
def LogEvent.records {ρ : Type} : LogEvent ρ → List ρ
  | added records => records
  | flushed _ => []

/-- What a log that is new in a tree has become, where every writing has succeeded. -/
inductive Reaches {ρ : Type} (lineOf : ρ → String) (directory : Path) (tree : FileTree) :
    List (LogEvent ρ) → IssueLog ρ → FileTree → Prop
  | new : Reaches lineOf directory tree [] (new directory) tree
  | append {history : List (LogEvent ρ)} {log : IssueLog ρ} {now : FileTree} (record : ρ) :
    Reaches lineOf directory tree history log now →
    Reaches lineOf directory tree (history ++ [.added [record]]) (log.append record) now
  | extend {history : List (LogEvent ρ)} {log : IssueLog ρ} {now : FileTree} (records : List ρ) :
    Reaches lineOf directory tree history log now →
    Reaches lineOf directory tree (history ++ [.added records]) (log.extend records) now
  | flush {history : List (LogEvent ρ)} {log : IssueLog ρ} {now : FileTree} (clock : String)
      (path : Option Path) :
    Reaches lineOf directory tree history log now → (log.flush lineOf clock now).outcome = .ok path →
    Reaches lineOf directory tree (history ++ [.flushed path]) (log.flush lineOf clock now).log
      (log.flush lineOf clock now).tree

variable {ρ : Type} {lineOf : ρ → String} {directory : Path} {tree now : FileTree}
  {history : List (LogEvent ρ)} {log : IssueLog ρ}

/-! ## Writing -/

theorem linesOf_append (first second : List ρ) :
    linesOf lineOf (first ++ second) = linesOf lineOf first ++ linesOf lineOf second := by
  rw [linesOf, linesOf, linesOf, List.map_append, String.join_append]

/-- Choosing the file of a log makes directories at most, and nothing where there is a file already. -/
theorem place_cases {clock : String} {path : Path} {between : FileTree}
    (placed : log.place clock now = (.ok path, between)) :
    log.file = some path ∧ between = now ∨ log.file = none ∧ now.IsGrown between := by
  unfold place at placed
  cases file : log.file with
  | some chosen =>
    rw [file] at placed
    cases placed
    exact .inl ⟨rfl, rfl⟩
  | none =>
    rw [file] at placed
    have grown := now.isGrown_makeDirectory log.directory
    rw [← (Prod.mk.inj placed).2]
    exact .inr ⟨rfl, grown⟩

/-- A writing that succeeds finds nothing to write and does nothing, or puts all that is held back at the end
of the log file. -/
theorem flush_cases {clock : String} {path? : Option Path}
    (ok : (log.flush lineOf clock now).outcome = .ok path?) :
    (log.buffered = [] ∧ path? = none ∧ log.flush lineOf clock now = ⟨.ok none, log, now⟩) ∨
      ∃ path between after, log.buffered ≠ [] ∧ path? = some path ∧
        (log.file = some path ∧ between = now ∨ log.file = none ∧ now.IsGrown between) ∧
        between.appendText path (linesOf lineOf log.buffered) = .ok after ∧
        log.flush lineOf clock now =
          ⟨.ok (some path), { log with buffered := [], file := some path }, after⟩ := by
  unfold flush isPending at ok ⊢
  cases held : log.buffered with
  | nil =>
    rw [held] at ok
    cases ok
    exact .inl ⟨rfl, rfl, rfl⟩
  | cons record rest =>
    rw [held] at ok
    simp only [List.isEmpty_cons, Bool.not_false, Bool.not_true, Bool.false_eq_true, ↓reduceIte] at ok ⊢
    split at ok
    · cases ok
    · next path between placed =>
      split at ok
      · cases ok
      · next after appended =>
        cases ok
        exact .inr ⟨path, between, after, by simp, rfl, place_cases placed, appended, rfl⟩

/-! ## What is kept -/

/-- What the file of a log holds: records that were written, after what was there before, and nothing else in
the tree is other than before. A log without a file has written nothing. -/
def IsWritten (lineOf : ρ → String) (tree now : FileTree) (written : List ρ) : Option Path → Prop
  | none => written = [] ∧ now = tree
  | some path => ∃ at_, now.locate path = .ok at_ ∧
      now.files.get? at_ =
        some (.single (.text (FileTree.textOf (tree.files.get? at_) ++ linesOf lineOf written))) ∧
      ∀ other ≠ at_, now.files.get? other = tree.files.get? other

/-- Whether no record of a history is lost or repeated, and all of it went to one file. -/
structure IsKept (lineOf : ρ → String) (tree : FileTree) (history : List (LogEvent ρ)) (log : IssueLog ρ)
    (now : FileTree) (written : List ρ) : Prop where
  all : history.flatMap LogEvent.records = written ++ log.buffered
  oneFile : ∀ path, .flushed (some path) ∈ history → log.file = some path
  isWritten : IsWritten lineOf tree now written log.file

variable {written : List ρ}

theorem isKept_new (directory : Path) (tree : FileTree) :
    IsKept lineOf tree [] (new directory) tree [] :=
  ⟨rfl, nofun, rfl, rfl⟩

theorem IsKept.extend (kept : IsKept lineOf tree history log now written) (records : List ρ) :
    IsKept lineOf tree (history ++ [.added records]) (log.extend records) now written := by
  refine ⟨?_, fun path member => ?_, kept.isWritten⟩
  · rw [List.flatMap_append, kept.all, List.append_assoc]
    simp [IssueLog.extend, LogEvent.records]
  · exact kept.oneFile path (by simpa using member)

/-- Records that are put at the end of the chosen file stand behind those that were written to it before, or
begin what a log has written. -/
theorem IsWritten.append {path : Path} {between after : FileTree} {records : List ρ}
    (before : IsWritten lineOf tree now written log.file)
    (chosen : log.file = some path ∧ between = now ∨ log.file = none ∧ now.IsGrown between)
    (appended : between.appendText path (linesOf lineOf records) = .ok after) :
    IsWritten lineOf tree after (written ++ records) (some path) := by
  obtain ⟨at_, puts⟩ := FileTree.exists_puts_of_write appended
  have located := puts.led
  have here := puts.here
  rw [FileTree.read?_of_locate located] at here
  refine ⟨at_, puts.leads, ?_, fun other different => ?_⟩
  · rw [here]
    -- the log file is the one of before, or nothing was written before
    rcases chosen with ⟨file, rfl⟩ | ⟨file, grown⟩
    · rw [file] at before
      obtain ⟨place, found, text, -⟩ := before
      cases located.symm.trans found
      rw [text, FileTree.textOf, linesOf_append, String.append_assoc]
    · rw [file] at before
      obtain ⟨rfl, rfl⟩ := before
      rw [grown.files, List.nil_append]
  · rw [puts.elsewhere other different]
    rcases chosen with ⟨file, rfl⟩ | ⟨file, grown⟩
    · rw [file] at before
      obtain ⟨place, found, -, others⟩ := before
      cases located.symm.trans found
      exact others other different
    · rw [file] at before
      rw [grown.files, before.2]

/-- A writing that succeeds keeps everything: what was held back has become what is written. -/
theorem IsKept.flush {clock : String} {path? : Option Path}
    (kept : IsKept lineOf tree history log now written)
    (ok : (log.flush lineOf clock now).outcome = .ok path?) :
    IsKept lineOf tree (history ++ [.flushed path?]) (log.flush lineOf clock now).log
      (log.flush lineOf clock now).tree (written ++ log.buffered) := by
  have all : (history ++ [LogEvent.flushed path?]).flatMap LogEvent.records = written ++ log.buffered := by
    rw [List.flatMap_append, kept.all]
    simp [LogEvent.records]
  rcases flush_cases ok with ⟨held, rfl, done⟩ | ⟨path, between, after, -, rfl, chosen, appended, done⟩
  · rw [done]
    refine ⟨by rw [all, held]; simp, fun path member => ?_, ?_⟩
    · exact kept.oneFile path (by simpa using member)
    · rw [held, List.append_nil]
      exact kept.isWritten
  · rw [done]
    refine ⟨by rw [all]; simp, fun earlier member => ?_, kept.isWritten.append chosen appended⟩
    -- a path that was told before is that of a file chosen before, so none is chosen now
    rcases List.mem_append.1 member with before | last
    · have file := kept.oneFile earlier before
      rcases chosen with ⟨same, -⟩ | ⟨absent, -⟩
      · exact same.symm.trans file
      · rw [absent] at file
        cases file
    · cases List.mem_singleton.1 last
      rfl

/-- Whatever has come to a log, everything is kept. -/
theorem exists_isKept (reached : Reaches lineOf directory tree history log now) :
    ∃ written, IsKept lineOf tree history log now written := by
  induction reached with
  | new => exact ⟨[], isKept_new directory tree⟩
  | append record _ ih =>
    obtain ⟨written, kept⟩ := ih
    exact ⟨written, kept.extend [record]⟩
  | extend records _ ih =>
    obtain ⟨written, kept⟩ := ih
    exact ⟨written, kept.extend records⟩
  | flush clock path _ ok ih =>
    obtain ⟨written, kept⟩ := ih
    exact ⟨_, kept.flush ok⟩

/-! ## The log of a run -/

/-- The line of an issue is one line, whatever its workbook is called and its message says. -/
theorem newline_not_mem_line (i : StampedIssue) : '\n' ∉ i.line.toList := by
  have text (text : String) := Json.newline_not_mem_write_ofText text
  have number := Json.newline_not_mem_write_ofInt i.issue.line
  rw [StampedIssue.line, Issue.logLine]
  refine Json.newline_not_mem_write_ofFields fun field member => ?_
  simp only [List.mem_cons, List.not_mem_nil, or_false] at member
  rcases member with rfl | rfl | rfl | rfl | rfl | rfl
  · exact text i.stamp
  · exact text i.issue.workbook
  · exact text i.issue.list
  · exact number
  · exact text i.issue.kind
  · exact text i.issue.message

/-- A writing tells no file, and leaves the tree as it is, just where nothing was held back; the file that it
tells is there. Afterwards nothing is held back. -/
theorem none_iff_of_flush {clock : String} {path? : Option Path}
    (ok : (log.flush lineOf clock now).outcome = .ok path?) :
    (path? = none ∧ (log.flush lineOf clock now).tree = now ↔ log.buffered = []) ∧
      (∀ path, path? = some path → ((log.flush lineOf clock now).tree.read? path).isSome) ∧
      (log.flush lineOf clock now).log.size = 0 := by
  rcases flush_cases ok with ⟨held, rfl, done⟩ | ⟨path, between, after, held, rfl, -, appended, done⟩
  · rw [done]
    exact ⟨iff_of_true ⟨rfl, rfl⟩ held, nofun, by rw [size, held, List.length_nil]⟩
  · rw [done]
    obtain ⟨at_, puts⟩ := FileTree.exists_puts_of_write appended
    refine ⟨iff_of_false (fun none => by cases none.1) held, fun other is => ?_, rfl⟩
    cases is
    rw [FileTree.read?_of_locate puts.leads, puts.here]
    rfl

/-- A log of issues neither loses nor repeats one. At every moment, the lines that it has put at the end of its
file, one for each issue, and the issues that it holds back are all that ever came, in order. All writings go
to one file; a writing tells none and makes none just where nothing is held back; and it leaves nothing held
back. -/
theorem kept_of_reaches {history : List (LogEvent StampedIssue)} {log : IssueLog StampedIssue}
    (reached : Reaches StampedIssue.line directory tree history log now) :
    (∃ written, history.flatMap LogEvent.records = written ++ log.buffered ∧
        IsWritten StampedIssue.line tree now written log.file) ∧
      (∀ i : StampedIssue, '\n' ∉ i.line.toList) ∧
      (∀ first second, .flushed (some first) ∈ history → .flushed (some second) ∈ history → first = second) ∧
      (∀ clock, log.buffered = [] → log.flush StampedIssue.line clock now = ⟨.ok none, log, now⟩) ∧
      ∀ clock path?, (log.flush StampedIssue.line clock now).outcome = .ok path? →
        (path? = none ∧ (log.flush StampedIssue.line clock now).tree = now ↔ log.buffered = []) ∧
          (∀ path, path? = some path → ((log.flush StampedIssue.line clock now).tree.read? path).isSome) ∧
          (log.flush StampedIssue.line clock now).log.size = 0 := by
  obtain ⟨written, kept⟩ := exists_isKept reached
  refine ⟨⟨written, kept.all, kept.isWritten⟩, newline_not_mem_line, fun first second one other => ?_,
    fun clock held => ?_, fun clock path? ok => none_iff_of_flush ok⟩
  · have file := kept.oneFile first one
    rw [kept.oneFile second other] at file
    exact (Option.some.inj file).symm
  · rw [flush, isPending, held]
    rfl

/-- Two issues, written at two times: a third writing finds nothing to write, and both are in the one file. -/
theorem kept_of_reaches_two_issues :
    let path : Path := ⟨"", ["logs", "issues-1.log"]⟩
    let missing : StampedIssue := ⟨"t1", ⟨"market.xlsx", "AREAS_SE", -1, "MISSING_SHEET", "two\nlines"⟩⟩
    let empty : StampedIssue := ⟨"t2", ⟨"market.xlsx", "AREAS_FI", 4, "EMPTY_TAXONOMY", "none"⟩⟩
    ∃ (log : IssueLog StampedIssue) (now : FileTree),
      Reaches StampedIssue.line defaultDirectory FileTree.empty
        [.added [missing], .flushed (some path), .added [empty], .flushed (some path)] log now ∧
      log.flush StampedIssue.line "3" now = ⟨.ok none, log, now⟩ ∧
      ∃ written, [missing, empty] = written ++ log.buffered ∧
        IsWritten StampedIssue.line FileTree.empty now written log.file := by
  intro path missing empty
  have start : Reaches StampedIssue.line defaultDirectory FileTree.empty [] (new defaultDirectory)
    FileTree.empty := .new
  have first := (start.append missing).flush "1" (some path) (by decide +kernel)
  have second := (first.append empty).flush "2" (some path) (by decide +kernel)
  obtain ⟨kept, -, -, unchanged, -⟩ := kept_of_reaches second
  exact ⟨_, _, second, unchanged "3" (by decide +kernel), kept⟩

end Codebook.IssueLog
