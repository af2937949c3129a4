import Codebook.Expression.Basic
import Codebook.Text.Word
import Codebook.Text.Blank

/-!
# Meeting an expression

A text meets an expression if some part of it is described. From a state, a place in the text together
with the ends of the groups so far, a part leads to other states, of which the earlier ones are to be
preferred. Preference matters only where the first way alone counts, and the groups only where a part asks
for them, so only these are kept. A repetition does not go on after a round that took nothing.
-/

namespace Codebook

/-! ## Characters -/

namespace CaseRule

/-- The small letter that stands for a character. -/
def small (rule : CaseRule) (c : Char) : Char :=
  match rule with
  | exact => c
  | asciiFree => c.toLower
  | free => Text.smallLetter c

/-- The small letters that go together with a small letter, that one included. -/
def kin (rule : CaseRule) (small : Char) : List Nat :=
  match rule with
  | free =>
    small.toNat :: (Text.CaseTable.kindred.find? fun group => group.contains small.toNat).getD []
  | _ => [small.toNat]

/-- Whether a character is taken for the one with a code. -/
def meets (rule : CaseRule) (code : Nat) (c : Char) : Bool :=
  let wanted := Char.ofNat code
  if wanted.toNat != code then false
  else if !rule.hasCase wanted then wanted == c
  else (rule.kin (rule.small wanted)).contains (rule.small c).toNat

/-- The codes of the characters with a small letter, that one included. -/
def origins (rule : CaseRule) (small : Nat) : List Nat :=
  let moved : List Nat :=
    match rule with
    | exact => []
    | asciiFree => if 97 ≤ small && small ≤ 122 then [small - 32] else []
    | free =>
      (if small == 105 then [0x130] else [])
        ++ Text.CaseTable.lowerShifts.filterMap fun s =>
          let code := ((small : Int) - s.distance).toNat
          if s.first ≤ code && code ≤ s.last && (code - s.first) % s.step == 0 then some code else none
  small :: moved

end CaseRule

namespace CharKind

/-- Whether a character is of a kind. -/
def holds (kind : CharKind) (isAscii : Bool) (c : Char) : Bool :=
  if isAscii then
    match kind with
    | digit => c.isDigit
    | blank => c == ' ' || (9 ≤ c.toNat && c.toNat ≤ 13)
    | word => c.isAlphanum || c == '_'
  else
    match kind with
    | digit => Text.isDecimal c
    | blank => Text.isBlank c
    | word => Text.isWordChar c

end CharKind

namespace CharRange

/-- The greatest code for which the case of a part of a class plays no part. -/
def foldingLimit : Nat := 0xFFFF

/-- Whether a part of a class holds a character. Where case plays no part, a character counts as its
small letter; beyond the limit a code of a class stands for itself alone, and a range holds the character
also for its capital letter. -/
def holds (rule : CaseRule) (c : Char) (range : CharRange) : Bool :=
  let small := rule.small c
  match range with
  | code n =>
    if rule == .exact || foldingLimit < n then small.toNat == n else rule.meets n c
  | codes first last =>
    let capitals := if rule == .exact || last ≤ foldingLimit then [] else Text.upperChar small
    let codes := (rule.kin small).flatMap rule.origins ++ capitals.map Char.toNat
    codes.any fun n => first ≤ n && n ≤ last
  | ofKind kind isAscii isMet => kind.holds isAscii small == isMet

end CharRange

/-! ## Places -/

namespace Spot

/-- Whether a word character is at a place. -/
def isWordAt (isAscii : Bool) (text : Array Char) (place : Nat) : Bool :=
  (text[place]?).any (CharKind.word.holds isAscii)

/-- Whether a place has what a condition asks for. -/
def holds (text : Array Char) (place : Nat) : Spot → Bool
  | .textStart => place == 0
  | .lineStart => place == 0 || text[place - 1]? == some '\n'
  | .lastLineEnd => place == text.size || (place + 1 == text.size && text[place]? == some '\n')
  | .lineEnd => place == text.size || text[place]? == some '\n'
  | .textEnd => place == text.size
  | .wordEdge isAscii isMet =>
    if text.isEmpty then false
    else
      let before := 0 < place && isWordAt isAscii text (place - 1)
      (before != isWordAt isAscii text place) == isMet

end Spot

namespace Expression

/-! ## Groups that are asked for -/

mutual

/-- The numbers of the groups that an expression asks for. -/
def asked : Expression → List Nat
  | again number _ => [number]
  | conditional number taken untaken => number :: (asked taken ++ asked untaken)
  | sequence parts | choice parts => askedOf parts
  | repeated _ _ _ part | group _ part | ahead _ part | behind _ _ _ part | atomic part => asked part
  | literal .. | among .. | any _ | .spot _ => []

/-- The numbers of the groups that several parts ask for. -/
def askedOf : List Expression → List Nat
  | [] => []
  | part :: rest => asked part ++ askedOf rest

end

/-! ## States -/

/-- The places where a group began and ended. -/
structure Ends where
  number : Nat
  first : Option Nat
  last : Option Nat
deriving Repr, DecidableEq

/-- A place in a text, and the ends of groups. -/
structure State where
  place : Nat
  groups : List Ends
deriving Repr, DecidableEq

namespace State

/-- The state in which one of the ends of a group is changed. -/
def mark (change : Ends → Ends) (number : Nat) (s : State) : State :=
  let ends := (s.groups.find? fun e => e.number == number).getD ⟨number, none, none⟩
  { s with groups := change ends :: s.groups.filter fun e => e.number != number }

/-- The state in which a group begins. -/
def opened (number : Nat) (s : State) : State :=
  s.mark (fun e => { e with first := some s.place }) number

/-- The state in which a group ends. -/
def closed (number : Nat) (s : State) : State :=
  s.mark (fun e => { e with last := some s.place }) number

/-- The ends of a group that took a text. -/
def taken? (number : Nat) (s : State) : Option (Nat × Nat) := do
  let ends ← s.groups.find? fun e => e.number == number
  let first ← ends.first
  let last ← ends.last
  if first ≤ last then some (first, last) else none

end State

/-- The states without those that came before. -/
def withoutRepeats (states : List State) : List State :=
  states.eraseDups

/-! ## Repetitions -/

/-- A repetition at the beginning of a round: its state, how many rounds were taken, and whether the last
one took nothing. -/
structure Round where
  state : State
  count : Nat
  isIdle : Bool
deriving Repr, DecidableEq

/-- The rounds that were begun, and the states in which the repetition may end, the last one first. -/
abbrev Rounds := List Round × List State

/-- All ways to go on with a repetition from the beginning of a round. `step` leads through one round, and
`fuel` bounds the number of rounds. A round that was begun before leads nowhere new. -/
def rounds (step : State → List State) (isReluctant : Bool) (least : Nat) (most : Option Nat) :
    Nat → Round → Rounds → Rounds
  | 0, _, found => found
  | fuel + 1, round, found =>
    if found.1.contains round then found
    else
      let found := (round :: found.1, found.2)
      let count := if most.isNone then min least (round.count + 1) else round.count + 1
      let goOn (found : Rounds) : Rounds :=
        (step round.state).foldl
          (fun found next =>
            rounds step isReluctant least most fuel
              ⟨next, count, least ≤ round.count && next.place == round.state.place⟩ found)
          found
      let stop (found : Rounds) : Rounds := (found.1, round.state :: found.2)
      if round.count < least then goOn found
      else if round.isIdle || most.any (· ≤ round.count) then stop found
      else if isReluctant then goOn (stop found)
      else stop (goOn found)

/-- The state after as many rounds as there are, each of which is taken in its first way. -/
def firstRounds (step : State → List State) (least : Nat) (most : Option Nat) :
    Nat → Nat → State → Option State
  | 0, _, s => some s
  | fuel + 1, count, s =>
    if most.any (· ≤ count) then some s
    else
      match (step s).head? with
      | none => if count < least then none else some s
      | some next =>
        if least ≤ count && next.place == s.place then some next
        else firstRounds step least most fuel (count + 1) next

/-! ## Ways -/

/-- The state after a character that passes a test. -/
def oneChar (text : Array Char) (s : State) (holds : Char → Bool) : List State :=
  match text[s.place]? with
  | some c => if holds c then [{ s with place := s.place + 1 }] else []
  | none => []

/-- Whether the text of a group stands at a place. -/
def standsAgain (text : Array Char) (rule : CaseRule) (first last place : Nat) : Bool :=
  (List.range (last - first)).all fun n =>
    match text[first + n]?, text[place + n]? with
    | some a, some b => rule.small a == rule.small b
    | _, _ => false

mutual

/-- The states to which an expression leads from a state, the ones to be preferred first; `used` has the
groups of which the ends are kept. -/
def ways (text : Array Char) (used : List Nat) (s : State) : Expression → List State
  | literal code isMet rule => oneChar text s fun c => rule.meets code c == isMet
  | among ranges isMet rule => oneChar text s fun c => ranges.any (CharRange.holds rule c) == isMet
  | any withBreak => oneChar text s fun c => withBreak || c != '\n'
  | .spot condition => if condition.holds text s.place then [s] else []
  | sequence parts => waysOfAll text used [s] parts
  | choice parts => withoutRepeats (waysOfEach text used s parts)
  | repeated greed least most part =>
    let step (s : State) := ways text used s part
    let fuel := least + (text.size - s.place) + 3
    match greed with
    | .possessive => (firstRounds step least most fuel 0 s).toList
    | _ =>
      let found := rounds step (greed == .reluctant) least most fuel ⟨s, 0, false⟩ ([], [])
      withoutRepeats found.2.reverse
  | group number part =>
    if used.contains number then
      withoutRepeats ((ways text used (s.opened number) part).map (State.closed number))
    else ways text used s part
  | again number rule =>
    match s.taken? number with
    | some (first, last) =>
      if standsAgain text rule first last s.place then [{ s with place := s.place + (last - first) }]
      else []
    | none => []
  | conditional number taken untaken =>
    if (s.taken? number).isSome then ways text used s taken else ways text used s untaken
  | ahead isMet part =>
    match (ways text used s part).head? with
    | some found => if isMet then [{ found with place := s.place }] else []
    | none => if isMet then [] else [s]
  | behind isMet least _ part =>
    if s.place < least then (if isMet then [] else [s])
    else
      match (ways text used { s with place := s.place - least } part).head? with
      | some found => if isMet then [{ found with place := s.place }] else []
      | none => if isMet then [] else [s]
  | atomic part => (ways text used s part).head?.toList

/-- The states to which parts lead one after the other from some states. -/
def waysOfAll (text : Array Char) (used : List Nat) (states : List State) :
    List Expression → List State
  | [] => states
  | part :: rest =>
    waysOfAll text used (withoutRepeats (states.flatMap fun s => ways text used s part)) rest

/-- The states to which each of several parts leads from a state. -/
def waysOfEach (text : Array Char) (used : List Nat) (s : State) : List Expression → List State
  | [] => []
  | part :: rest => ways text used s part ++ waysOfEach text used s rest

end

/-- Whether some part of a text is described by an expression. -/
def meets (e : Expression) (text : String) : Bool :=
  let chars := text.toList.toArray
  let used := asked e
  (List.range (chars.size + 1)).any fun place => !(ways chars used ⟨place, []⟩ e).isEmpty

end Expression

end Codebook
