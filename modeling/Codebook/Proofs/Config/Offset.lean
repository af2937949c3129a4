import Codebook.Proofs.Config.Naming

/-!
# The offset of the labels

The number of the row of the labels is whole in a configuration that is read with the built-in form, though it
may be given with a point (`exists_offset_of_load`).
-/

namespace Codebook.Config

open Schema

/-- A number that follows the schema of whole numbers is whole. -/
theorem exists_toInt?_of_follows {bound : Int} {n : Number}
    (follows : Follows (wholeFrom bound) (.scalar (.number n))) : ∃ i, n.toInt? = some i := by
  have plain : Plain [("type", .ofText "integer"), ("minimum", .ofInt bound)] := ⟨rfl, rfl⟩
  have whole : Dialect.draft7.admits .integer (.scalar (.number n)) = true :=
    follows.kind plain List.mem_cons_self rfl
  cases n with
  | whole i => exact ⟨i, rfl⟩
  | real x => exact Option.isSome_iff_exists.1 whole

theorem eq_number_of_asNumber {d : Document} {n : Number} (ok : asNumber d = .ok n) :
    d = .scalar (.number n) := by
  rw [asNumber.eq_def] at ok
  split at ok
  · rw [Except.ok.inj ok]
  · cases ok

/-- The offset of settings stands in the complete document. -/
theorem field?_of_settings {d : Document} {s : Settings} (ok : settings d = .ok s) :
    d.field? "header_row_offset" = some (.scalar (.number s.headerRowOffset)) := by
  obtain ⟨_, -, ok⟩ := Report.exists_of_bind_eq_ok ok
  obtain ⟨_, -, ok⟩ := Report.exists_of_bind_eq_ok ok
  obtain ⟨offset, read, ok⟩ := Report.exists_of_bind_eq_ok ok
  obtain ⟨_, -, ok⟩ := Report.exists_of_bind_eq_ok ok
  obtain ⟨_, -, ok⟩ := Report.exists_of_bind_eq_ok ok
  obtain ⟨_, -, ok⟩ := Report.exists_of_bind_eq_ok ok
  obtain ⟨_, -, ok⟩ := Report.exists_of_bind_eq_ok ok
  obtain rfl := Except.ok.inj ok
  obtain ⟨x, there, number⟩ := part?_of_fieldAs read
  rw [eq_number_of_asNumber number] at there
  exact Document.field?_of_part? there

/-- The offset of a complete document is the one that was given, or else the default. -/
theorem field?_of_complete {d made : Document} (ok : complete d = .ok made) :
    made.field? "header_row_offset" =
      some ((d.part? "header_row_offset").getD (.scalar (.number defaultSettings.headerRowOffset))) := by
  obtain ⟨_, -, ok⟩ := Report.exists_of_bind_eq_ok ok
  obtain ⟨_, -, ok⟩ := Report.exists_of_bind_eq_ok ok
  obtain ⟨_, -, ok⟩ := Report.exists_of_bind_eq_ok ok
  obtain ⟨_, -, ok⟩ := Report.exists_of_bind_eq_ok ok
  obtain ⟨_, -, ok⟩ := Report.exists_of_bind_eq_ok ok
  obtain ⟨_, -, ok⟩ := Report.exists_of_bind_eq_ok ok
  obtain rfl := Except.ok.inj ok
  rfl

theorem exists_offset_of_load {text : String} {s : Settings} (ok : load .builtIn text = .ok s) :
    ∃ n, s.headerRowOffset.toInt? = some n := by
  obtain ⟨made, completed, read⟩ := Report.exists_of_bind_eq_ok ok
  obtain ⟨d, -, completed⟩ := Report.exists_of_bind_eq_ok completed
  obtain ⟨⟨⟩, checked, completed⟩ := Report.exists_of_bind_eq_ok completed
  have follows : Follows form d := follows_of_checkIn (Report.eq_ok_of_mapError checked)
  have offset := field?_of_settings read
  rw [field?_of_complete (Report.eq_ok_of_mapError completed), Option.some.injEq] at offset
  cases given : d.part? "header_row_offset" with
  | none =>
    rw [given] at offset
    rw [← Scalar.number.inj (Document.scalar.inj offset)]
    exact ⟨_, rfl⟩
  | some x =>
    rw [given] at offset
    obtain rfl : x = _ := offset
    exact exists_toInt?_of_follows
      (follows_of_record follows (List.mem_of_getElem? (i := 2) rfl) ⟨rfl, rfl⟩ given)

end Codebook.Config
