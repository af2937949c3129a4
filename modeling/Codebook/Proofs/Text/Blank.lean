import Codebook.Text.Blank
import Mathlib.Data.List.TakeWhile

/-!
# Texts without outer blanks

Trimming leaves a text that neither begins nor ends with a blank, and changes no such text.
-/

namespace Codebook.Text

/-! ## Statements about characters

Where all characters of a text are asked for, they are looked at one by one; the general instances would
go through every character that there is. -/

instance (priority := 2000) decidableForallChars {p : Char → Prop} [DecidablePred p] (chars : List Char) :
    Decidable (∀ c ∈ chars, p c) :=
  List.decidableBAll p chars

instance (priority := 2000) decidableForallChar? {p : Char → Prop} [DecidablePred p] (c? : Option Char) :
    Decidable (∀ c ∈ c?, p c) :=
  Option.decidableForallMem c?

/-! ## Trimming -/

/-- Whether neither the first nor the last character of a text is a blank. -/
def IsTrimmed (text : String) : Prop :=
  (∀ c ∈ text.toList.head?, isBlank c = false) ∧ ∀ c ∈ text.toList.getLast?, isBlank c = false

instance : DecidablePred IsTrimmed := fun text =>
  inferInstanceAs (Decidable ((∀ c ∈ text.toList.head?, isBlank c = false) ∧
    ∀ c ∈ text.toList.getLast?, isBlank c = false))

theorem dropWhile_isBlank_of_head {chars : List Char}
    (dark : ∀ c ∈ chars.head?, isBlank c = false) : chars.dropWhile isBlank = chars := by
  cases chars with
  | nil => rfl
  | cons c chars => rw [List.dropWhile_cons, dark c rfl]; rfl

theorem head_dropWhile_isBlank (chars : List Char) :
    ∀ c ∈ (chars.dropWhile isBlank).head?, isBlank c = false := by
  intro c member
  have head := List.head?_dropWhile_not isBlank chars
  rw [Option.mem_def.1 member] at head
  simpa using head

theorem trimChars_eq_self {chars : List Char} (first : ∀ c ∈ chars.head?, isBlank c = false)
    (last : ∀ c ∈ chars.getLast?, isBlank c = false) : trimChars chars = chars := by
  rw [trimChars, dropWhile_isBlank_of_head first,
    dropWhile_isBlank_of_head (by rwa [List.head?_reverse]), List.reverse_reverse]

theorem isTrimmed_trim (text : String) : IsTrimmed (trim text) := by
  unfold IsTrimmed
  rw [trim, String.toList_ofList, trimChars]
  generalize kept : text.toList.dropWhile isBlank = chars
  have last : ∀ c ∈ (chars.reverse.dropWhile isBlank).reverse.getLast?, isBlank c = false := by
    rw [List.getLast?_reverse]
    exact head_dropWhile_isBlank chars.reverse
  refine ⟨?_, last⟩
  -- What is left after the second pass begins as what was left after the first one.
  obtain ⟨taken, split⟩ := (List.dropWhile_suffix isBlank (l := chars.reverse)).reverse
  rw [List.reverse_reverse] at split
  intro c member
  have first := head_dropWhile_isBlank text.toList
  rw [kept, ← split] at first
  refine first c ?_
  cases left : (chars.reverse.dropWhile isBlank).reverse with
  | nil =>
    rw [left] at member
    cases member
  | cons d rest =>
    rw [left] at member
    exact member

/-- Something is left of a text that does not consist of blanks alone. -/
theorem trim_ne_empty {text : String} (dark : isAllBlank text = false) : trim text ≠ "" := by
  intro empty
  have none : trimChars text.toList = [] := by
    rw [← String.toList_ofList (l := trimChars text.toList), ← trim, empty]
    rfl
  rw [trimChars, List.reverse_eq_nil_iff, List.dropWhile_eq_nil_iff] at none
  have all : text.toList.all isBlank = true := by
    rw [← List.takeWhile_append_dropWhile (p := isBlank) (l := text.toList), List.all_append,
      List.all_takeWhile, Bool.true_and, List.all_eq_true]
    exact fun c member => none c (List.mem_reverse.2 member)
  rw [isAllBlank, all] at dark
  cases dark

end Codebook.Text
