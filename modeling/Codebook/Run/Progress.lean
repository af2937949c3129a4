/-!
# Progress

A bar shows how far a run is, one step for each list, but only on a terminal. The bar is told what to
show; once closed it is not told anything any more.
-/

namespace Codebook

/-- What a bar is told. -/
inductive BarCall where
  | create (description : String) (total : Int)
  | describe (text : String)
  | advance
  | showEntries (count : Int)
  | close
deriving Repr, DecidableEq

/-- How far a run is. -/
structure Progress where
  description : String
  total : Int
  /-- The number of the list that was begun last. -/
  current : Nat
  /-- Whether the output is a terminal. -/
  onTerminal : Bool
  hasBar : Bool
deriving Repr, DecidableEq

namespace Progress

/-- What a bar says by default. -/
def defaultDescription : String := "Compiling lists"

/-- The progress of a run that is about to begin. -/
def new (onTerminal : Bool) (total : Int) (description : String) : Progress × List BarCall :=
  (⟨description, total, 0, onTerminal, onTerminal⟩,
    if onTerminal then [.create description total] else [])

/-- What a bar is told, if there is one. -/
def tell (p : Progress) (calls : List BarCall) : List BarCall :=
  if p.hasBar then calls else []

/-- A list is begun. -/
def start (p : Progress) (list : String) : Progress × List BarCall :=
  ({ p with current := p.current + 1 },
    p.tell [.describe (p.description ++ " (" ++ list ++ ")")])

/-- A list is done. -/
def finish (p : Progress) (entries : Int) : Progress × List BarCall :=
  (p, p.tell [.advance, .showEntries entries, .describe p.description])

/-- The run is over. -/
def close (p : Progress) : Progress × List BarCall :=
  ({ p with hasBar := false }, p.tell [.close])

end Progress

end Codebook
