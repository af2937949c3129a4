import Codebook.Report
import Codebook.Text.Quoted

/-!
# The console

Events are printed by the handlers of a console. It has none until it is set up, and setting it up again
changes nothing unless it was reset before. Events come from the console itself and from the parts of
the program below it; an event is printed when its level is not below those of the console and of the
handler.
-/

namespace Codebook

/-- A console with the levels below which it drops events. -/
structure Console where
  isSetUp : Bool
  /-- The level of the console; 0 stands for none of its own. -/
  level : Level
  handlers : List Level
  /-- Whether events go on to the handlers of the surroundings. -/
  passesOn : Bool
deriving Repr, DecidableEq

namespace Console

/-- A console that is not set up. -/
def initial : Console := ⟨false, 0, [], true⟩

/-- The level at which events matter to surroundings that were told nothing. -/
def surroundingLevel : Level := Level.warning

/-- Sets a console up with one handler. -/
def setUp (c : Console) (level : Level) : Console :=
  if c.isSetUp then c else ⟨true, level, [level], false⟩

/-- Sets a console up with the default level. -/
def ready (c : Console) : Console :=
  c.setUp Level.info

/-- Forgets that a console was set up. -/
def reset (c : Console) : Console :=
  { c with isSetUp := false }

/-- Gives a level to a console and its handlers. -/
def withLevel (c : Console) (level : Level) : Console :=
  { c with level := level, handlers := c.handlers.map fun _ => level }

/-- The levels that have a name. -/
def levelNames : List (String × Level) :=
  [
    ("CRITICAL", Level.critical), ("FATAL", Level.critical), ("ERROR", Level.error),
    ("WARNING", Level.warning), ("WARN", Level.warning), ("SUMMARY", Level.summary),
    ("INFO", Level.info), ("DEBUG", Level.debug), ("NOTSET", 0)
  ]

/-- The name of a level that there is not. -/
structure UnknownLevel where
  name : String
deriving Repr, DecidableEq

namespace UnknownLevel

/-- The message about a name without a level. -/
def message (e : UnknownLevel) : String :=
  "Unknown level: " ++ Text.quoted e.name

end UnknownLevel

/-- The level with a name; names are in capital letters. -/
def levelNamed (name : String) : Except UnknownLevel Level :=
  match levelNames.lookup name with
  | some level => .ok level
  | none => .error ⟨name⟩

/-- Whether a console lets events of a level through to its handlers. -/
def admits (c : Console) (level : Level) : Bool :=
  0 < level && (if c.level == 0 then surroundingLevel else c.level) ≤ level

/-- What a console prints for an event. -/
def printed (c : Console) (e : Event) : String :=
  if c.admits e.level then
    String.join ((c.handlers.filter fun handler => handler ≤ e.level).map fun _ => e.line)
  else ""

/-- What a console prints for events. -/
def printedAll (c : Console) (events : List Event) : String :=
  String.join (events.map c.printed)

/-- Whether the name of a part, given without the name of the program, is that of the program or of a
part below it. -/
def reaches (part : String) : Bool :=
  part.isEmpty || part.toList.head? == some '.'

end Console

end Codebook
