import Codebook.Failure

/-!
# Reports

What a computation leaves behind beside its result: issues for the issue log and events for the
console. Both are kept when the computation fails.
-/

namespace Codebook

/-- A warning or a failure of a run, as the issue log holds it. -/
structure Issue where
  workbook : String
  /-- The list, or the sheet, that the issue is about. -/
  list : String
  /-- The line of the definition text, or -1. -/
  line : Int
  kind : String
  message : String
deriving Repr, DecidableEq

/-! ## Levels -/

/-- How grave an event is. -/
abbrev Level := Int

namespace Level

def debug : Level := 10
def info : Level := 20

/-- The level of the line that ends a run, between information and warning. -/
def summary : Level := 25
def warning : Level := 30
def error : Level := 40
def critical : Level := 50

/-- The labels of the levels that have one. -/
def labels : List (Level × String) :=
  [
    (debug, "DEBUG"), (info, "INFO"), (summary, "SUMMARY"), (warning, "WARN"), (error, "ERROR"),
    (critical, "CRITICAL")
  ]

/-- The word in front of an event. -/
def label (level : Level) : String :=
  match labels.lookup level with
  | some word => word
  | none => if level == 0 then "NOTSET" else "Level " ++ toString level

end Level

/-- Something that happened, for the console. -/
structure Event where
  level : Level
  text : String
deriving Repr, DecidableEq

namespace Event

/-- The line of an event on the console. -/
def line (e : Event) : String :=
  e.level.label ++ " " ++ e.text ++ "\n"

/-- The lines of events. -/
def lines (events : List Event) : String :=
  String.join (events.map line)

end Event

/-! ## Computations with a journal -/

/-- The issues and the events of a computation, in the order in which they arose. -/
structure Journal where
  issues : List Issue
  events : List Event
deriving Repr, DecidableEq

namespace Journal

/-- The journal in which nothing stands. -/
def empty : Journal := ⟨[], []⟩

/-- Two journals, one after the other. -/
def append (a b : Journal) : Journal :=
  ⟨a.issues ++ b.issues, a.events ++ b.events⟩

instance : Append Journal := ⟨append⟩

end Journal

/-- The outcome of a computation and its journal. -/
structure Report (α : Type) where
  outcome : Except Failure α
  journal : Journal

namespace Report

variable {α β : Type}

/-- A result without a journal. -/
def pure (a : α) : Report α := ⟨.ok a, .empty⟩

/-- A computation that goes on with the result of another one, unless that failed. -/
def bind (first : Report α) (next : α → Report β) : Report β :=
  match first.outcome with
  | .ok a => ⟨(next a).outcome, first.journal ++ (next a).journal⟩
  | .error failure => ⟨.error failure, first.journal⟩

instance : Monad Report where
  pure := Report.pure
  bind := Report.bind

/-- A failure. -/
def fail (failure : Failure) : Report α := ⟨.error failure, .empty⟩

/-- The outcome of a computation without a journal. -/
def ofExcept (outcome : Except Failure α) : Report α := ⟨outcome, .empty⟩

/-- An issue for the issue log. -/
def issue (i : Issue) : Report Unit := ⟨.ok (), ⟨[i], []⟩⟩

/-- An event for the console. -/
def event (level : Level) (text : String) : Report Unit := ⟨.ok (), ⟨[], [⟨level, text⟩]⟩⟩

end Report

end Codebook
