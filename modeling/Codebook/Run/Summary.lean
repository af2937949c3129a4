import Codebook.Export.Bundle
import Codebook.Number.Shortest

/-!
# The summary of a run

A run that succeeds ends with one line of figures.
-/

namespace Codebook

/-- The figures of one list. -/
structure ListStat where
  list : String
  /-- The entries of a catalog, or the categories of the taxonomy. -/
  entries : Int
  /-- The rows of the table. -/
  rows : Int
deriving Repr, DecidableEq

namespace ListStat

/-- The entries of all lists. -/
def totalEntries (stats : List ListStat) : Int :=
  stats.foldl (fun total stat => total + stat.entries) 0

/-- The rows of all lists. -/
def totalRows (stats : List ListStat) : Int :=
  stats.foldl (fun total stat => total + stat.rows) 0

end ListStat

/-- The figures of a run. -/
structure Summary where
  market : String
  platform : Platform
  lists : Nat
  stats : List ListStat
  warnings : Nat
  artifacts : Nat
  /-- The duration in seconds. -/
  elapsed : Number
deriving Repr, DecidableEq

/-- Why a duration has no text: it is infinite or no number at all. -/
inductive DurationError where
  | infinite
  | notANumber
deriving Repr, DecidableEq

namespace DurationError

/-- The message of an error. -/
def message : DurationError → String
  | infinite => "cannot convert float infinity to integer"
  | notANumber => "cannot convert float NaN to integer"

end DurationError

namespace Summary

/-- Refuses a duration that is not finite. -/
def checkDuration : Number → Except DurationError Unit
  | .real (.infinite _) => .error .infinite
  | .real .notANumber => .error .notANumber
  | _ => .ok ()

/-- A text without the given character at its end. -/
def withoutLast (c : Char) (chars : List Char) : List Char :=
  (chars.reverse.dropWhile (· == c)).reverse

/-- A duration with as many places after the point as matter: six below a hundredth, else three. -/
def secondsText (elapsed : Number) : String :=
  match elapsed.toInt?, elapsed with
  | some n, _ => toString n
  | none, .whole n => toString n
  | none, .real x =>
    let places := if x.lessThan (.ofDecimal false 1 (-2)) then 6 else 3
    String.ofList (withoutLast '.' (withoutLast '0' (x.fixed places).toList))

/-- The figures in the order in which they are shown. -/
def figures (s : Summary) : List (String × String) :=
  [
    ("market", s.market), ("platform", s.platform.name), ("lists", toString s.lists),
    ("entries", toString (ListStat.totalEntries s.stats)),
    ("rows", toString (ListStat.totalRows s.stats)), ("warnings", toString s.warnings),
    ("artifacts", toString s.artifacts), ("elapsed_sec", secondsText s.elapsed)
  ]

/-- The figures in one line. -/
def text (s : Summary) : String :=
  " ".intercalate (s.figures.map fun (name, value) => name ++ "=" ++ value)

/-- The line that ends a run; its duration has to be finite. -/
def line (s : Summary) : Except DurationError String :=
  (checkDuration s.elapsed).map fun _ => "SUMMARY " ++ s.text

end Summary

end Codebook
