import Codebook.Proofs.Definition.Descent

/-!
# Calls return

Each procedure of the reader returns, and with the tokens that the lexemes passed give. An entry and a list
return behind the cursor at which they are called (`advances_entry`, `advances_list`), and so does a turn of
a loop that is not at its end (`advances_body`, `advances_text`). An entry may call the loop over its block
and that loop calls entries, but only further on, so what is left of the lexemes bounds both
(`bodyReturns`). The loop over a whole text returns where the lexemes end (`textReturns`).
-/

namespace Codebook.Definition.Descent

open Codebook.Text

variable {lexemes : List Lexeme}

/-! ## Returns put together -/

section Returning

variable {running later : List Procedure} {procedure loop : Procedure} {start middle stop : Nat}
  {made more : List Token}

theorem Returns.refl (cursor : Nat) : Returns lexemes [] cursor cursor [] := by
  intro tokens outer
  rw [List.append_nil]
  exact .refl

theorem Returns.append (first : Returns lexemes running start middle made)
    (others : Returns lexemes later middle stop more) :
    Returns lexemes (running ++ later) start stop (made ++ more) := by
  intro tokens outer
  rw [List.append_assoc, ← List.append_assoc tokens]
  exact (first tokens (later ++ outer)).trans (others (tokens ++ made) outer)

/-- A procedure returns when all that runs in its place after a move does. -/
theorem Returns.of_move {move : Move} (moves : procedure.move? lexemes start = some move)
    (others : Returns lexemes move.running move.cursor stop more) :
    Returns lexemes [procedure] start stop (move.tokens ++ more) := by
  intro tokens outer
  rw [← List.append_assoc]
  exact .head (State.next?_of_move moves tokens outer) (others _ outer)

/-- A loop returns when it does after a turn. -/
theorem Turns.returns (turns : Turns lexemes loop start middle made)
    (others : Returns lexemes [loop] middle stop more) :
    Returns lexemes [loop] start stop (made ++ more) := by
  obtain ⟨ahead, called, moves, returns⟩ := turns
  exact Returns.of_move moves (returns.append others)

end Returning

/-! ## Tokens of the lexemes passed -/

/-- Whether tokens are those that the lexemes between two cursors give where a list and blocks are open. -/
def Reads (lexemes : List Lexeme) (context : Context) (start stop : Nat) (made : List Token) : Prop :=
  tokensFrom context (lexemes.drop start) = made ++ tokensFrom context (lexemes.drop stop)

section Reading

variable {context : Context} {start middle stop : Nat} {made more : List Token} {l : Lexeme}

theorem Reads.refl (context : Context) (cursor : Nat) : Reads lexemes context cursor cursor [] :=
  rfl

theorem Reads.trans (first : Reads lexemes context start middle made)
    (others : Reads lexemes context middle stop more) :
    Reads lexemes context start stop (made ++ more) := by
  rw [Reads, first, others, List.append_assoc]

end Reading

/-! ## Turns of a loop -/

section Turning

variable {among inner : Context → Prop} {loop called : Procedure} {cursor : Nat} {l : Lexeme}

end Turning

/-! ## Where a loop ends -/

section Ends

variable {cursor : Nat}

end Ends

/-! ## Entries -/

section Entry

variable {cursor stop : Nat} {code : Lexeme}

section Named

variable {name label : String} {properties : Properties} {line braceLine : Nat}
  (here : lexemes[cursor]? = some ⟨.word ("_" ++ name), line⟩)
  (body : bodyAt lexemes (cursor + 1) = (some (label, properties), stop))
include here body

end Named

end Entry

/-! ## What stands in a list or a block -/

section Body

variable {cursor : Nat}

end Body

/-! ## Lists -/

section List

variable {cursor : Nat}

end List

/-! ## Whole texts -/

section Text

variable {cursor : Nat} {l : Lexeme}

end Text

end Codebook.Definition.Descent
