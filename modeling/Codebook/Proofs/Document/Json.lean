import Codebook.Document.Json
import Mathlib.Data.List.Basic

/-!
# JSON texts on one line

Control characters are escaped inside a JSON text, so there is no line feed in it, whatever the text holds.
The same is true of a mapping whose values are on one line.
-/

namespace Codebook.Json

open Codebook.Text

theorem newline_not_mem_hexDigits (width n : Nat) : '\n' ∉ hexDigits width n := by
  intro member
  obtain ⟨place, -, same⟩ := List.mem_map.1 member
  have digits : ∀ d < 16, Nat.digitChar d ≠ '\n' := by decide
  exact digits _ (Nat.mod_lt _ (by decide)) same

theorem newline_not_mem_escapedChar (c : Char) : '\n' ∉ escapedChar c := by
  have hex := newline_not_mem_hexDigits 4 c.toNat
  unfold escapedChar
  split
  · next special =>
    simp only [Bool.or_eq_true, beq_iff_eq] at special
    rcases special with rfl | rfl <;> decide
  split
  · decide
  split
  · decide
  split
  · decide
  split
  · decide
  split
  · decide
  split
  · simpa using hex
  · next newline _ _ _ _ _ => simpa using fun same => newline (beq_iff_eq.2 same.symm)

theorem newline_not_mem_ofText (text : String) : '\n' ∉ (ofText text).toList := by
  rw [ofText, String.toList_ofList, List.cons_append, List.mem_cons, List.mem_append, List.mem_singleton]
  rintro (quote | inside | quote)
  · cases quote
  · obtain ⟨c, -, member⟩ := List.mem_flatMap.1 inside
    exact newline_not_mem_escapedChar c member
  · cases quote

theorem newline_not_mem_write_ofText (text : String) : '\n' ∉ (write (.ofText text)).toList :=
  newline_not_mem_ofText text

theorem newline_not_mem_repr (n : Nat) : '\n' ∉ n.repr.toList := by
  intro member
  rw [Nat.toList_repr] at member
  cases Nat.isDigit_of_mem_toDigits (by decide) (by decide) member

theorem newline_not_mem_write_ofInt (n : Int) : '\n' ∉ (write (.ofInt n)).toList := by
  cases n with
  | ofNat n => exact newline_not_mem_repr n
  | negSucc n =>
    show '\n' ∉ ("-" ++ (n + 1).repr).toList
    rw [String.toList_append, List.mem_append]
    rintro (sign | digits)
    · exact absurd sign (by decide)
    · exact newline_not_mem_repr _ digits

theorem newline_not_mem_intercalate {separator : String} {parts : List String}
    (between : '\n' ∉ separator.toList) (each : ∀ part ∈ parts, '\n' ∉ part.toList) :
    '\n' ∉ (separator.intercalate parts).toList := by
  induction parts with
  | nil => exact List.not_mem_nil
  | cons part rest ih =>
    obtain ⟨first, others⟩ := List.forall_mem_cons.1 each
    cases rest with
    | nil => rwa [String.intercalate_singleton]
    | cons next rest =>
      have more := ih others
      rw [String.intercalate_cons_cons]
      simp only [String.toList_append, List.mem_append, not_or]
      exact ⟨⟨first, between⟩, more⟩

theorem newline_not_mem_write_ofFields {fields : List (String × Document)}
    (values : ∀ field ∈ fields, '\n' ∉ (write field.2).toList) :
    '\n' ∉ (write (.ofFields fields)).toList := by
  have parts : ∀ part ∈ writeFields (fields.map fun field => (.text field.1, field.2)),
      '\n' ∉ part.toList := by
    induction fields with
    | nil => exact nofun
    | cons field rest ih =>
      obtain ⟨first, others⟩ := List.forall_mem_cons.1 values
      refine List.forall_mem_cons.2 ⟨?_, ih others⟩
      have key : '\n' ∉ (ofScalar (.text field.1)).toList := newline_not_mem_ofText field.1
      simp only [String.toList_append, List.mem_append, not_or]
      exact ⟨⟨key, by decide⟩, first⟩
  have inside := newline_not_mem_intercalate (by decide : '\n' ∉ ", ".toList) parts
  show '\n' ∉ ("\x7b" ++ _ ++ "\x7d").toList
  simp only [String.toList_append, List.mem_append, not_or]
  exact ⟨⟨by decide, inside⟩, by decide⟩

end Codebook.Json
