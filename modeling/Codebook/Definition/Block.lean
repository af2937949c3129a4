/-!
# Definition blocks

A block is the definition text of one list: its name and its lines.
-/

namespace Codebook

/-- The definition text of one list, line by line. -/
structure Block where
  name : String
  lines : List String
deriving Repr, DecidableEq

namespace Block

/-- The text of a block. -/
def text (b : Block) : String :=
  "\n".intercalate b.lines

/-- The text of several blocks, with an empty line between two of them. -/
def allText (blocks : List Block) : String :=
  "\n\n".intercalate (blocks.map text)

end Block

end Codebook
