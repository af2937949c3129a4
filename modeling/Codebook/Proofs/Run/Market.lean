import Codebook.Proofs.Keyed
import Codebook.Run.Market

/-!
# Countries with a market code

A country has a market code exactly if a key of the table is equal to its name, or differs from it in case
alone (`known_of_codeOf`, `unknown_of_codeOf`). A key that is no text is in the way where it comes before each
of these (`codeOf_escapes_iff`).
-/

namespace Codebook.Market

open Text

/-- Whether a key of a country table is a name, or differs from it in case alone. -/
def Knows (countries : Keyed Scalar String) (name : String) : Prop :=
  ∃ key code, (Scalar.text key, code) ∈ countries ∧ (key = name ∨ fold key = fold name)

/-- Whether the keys of a country table up to a place are texts that differ from a name in more than case. -/
def AllDiffer (countries : Keyed Scalar String) (name : String) : Prop :=
  ∀ entry ∈ countries, ∃ key, entry.1 = .text key ∧ fold key ≠ fold name

/-- Whether the search for a name in a country table comes upon a key that is no text. -/
def MeetsOtherKey (countries : Keyed Scalar String) (name : String) : Prop :=
  (∀ code, (Scalar.text name, code) ∉ countries) ∧
    ∃ before key code after, countries = before ++ (key, code) :: after ∧ AllDiffer before name ∧
      ∀ text, key ≠ .text text

/-! ## Names without case -/

section FirstFolded

variable {countries : Keyed Scalar String} {name : String}

theorem exists_key_of_firstFolded {code : String}
    (found : firstFolded (fold name) countries = .ok (some code)) :
    ∃ key, (Scalar.text key, code) ∈ countries ∧ fold key = fold name := by
  fun_induction firstFolded (fold name) countries with
  | case1 => cases found
  | case2 key code rest same =>
    cases found
    exact ⟨key, List.mem_cons_self, beq_iff_eq.1 same⟩
  | case3 key other rest _ ih =>
    obtain ⟨key, member, same⟩ := ih found
    exact ⟨key, .tail _ member, same⟩
  | case4 => cases found

theorem allDiffer_of_firstFolded (none : firstFolded (fold name) countries = .ok none) :
    AllDiffer countries name := by
  fun_induction firstFolded (fold name) countries with
  | case1 => exact nofun
  | case2 => cases none
  | case3 key code rest different ih =>
    have differs : fold key ≠ fold name := fun same => different (beq_iff_eq.2 same)
    exact List.forall_mem_cons.2 ⟨⟨key, rfl, differs⟩, ih none⟩
  | case4 => cases none

/-- The search without case fails at the first key that is no text, if all keys before it differ. -/
theorem firstFolded_eq_error_iff {failure : Failure} :
    firstFolded (fold name) countries = .error failure ↔
      ∃ before key code after, countries = before ++ (key, code) :: after ∧ AllDiffer before name ∧
        (∀ text, key ≠ .text text) ∧ failure = .countryKey key.kindName := by
  fun_induction firstFolded (fold name) countries with
  | case1 =>
    refine ⟨nofun, ?_⟩
    rintro ⟨_ | ⟨_, _⟩, _, _, _, split, _⟩ <;> cases split
  | case2 key code rest same =>
    refine ⟨nofun, ?_⟩
    rintro ⟨_ | ⟨_, before⟩, _, _, _, split, differ, noText, _⟩
    · cases split
      exact absurd rfl (noText key)
    · cases split
      obtain ⟨_, isText, differs⟩ := (List.forall_mem_cons.1 differ).1
      cases isText
      exact absurd (beq_iff_eq.1 same) differs
  | case3 key code rest different ih =>
    have differs : fold key ≠ fold name := fun same => different (beq_iff_eq.2 same)
    rw [ih]
    constructor
    · rintro ⟨before, other, value, after, rfl, differ, noText, rfl⟩
      exact ⟨_ :: before, other, value, after, rfl, List.forall_mem_cons.2 ⟨⟨key, rfl, differs⟩, differ⟩,
        noText, rfl⟩
    · rintro ⟨_ | ⟨_, before⟩, other, value, after, split, differ, noText, rfl⟩
      · cases split
        exact absurd rfl (noText key)
      · cases split
        exact ⟨before, other, value, after, rfl, (List.forall_mem_cons.1 differ).2, noText, rfl⟩
  | case4 key code rest other =>
    constructor
    · intro failed
      exact ⟨[], key, code, rest, rfl, nofun, other, (Except.error.inj failed).symm⟩
    · rintro ⟨_ | ⟨_, before⟩, _, _, _, split, differ, _, rfl⟩
      · cases split
        rfl
      · cases split
        obtain ⟨text, same, _⟩ := (List.forall_mem_cons.1 differ).1
        exact absurd same (other text)

end FirstFolded

/-! ## Codes -/

theorem not_knows {countries : Keyed Scalar String} {name : String} (differ : AllDiffer countries name) :
    ¬Knows countries name := by
  rintro ⟨key, code, member, same⟩
  obtain ⟨_, isText, differs⟩ := differ _ member
  cases isText
  exact differs (same.elim (congrArg fold) id)

section CodeOf

variable {countries : Keyed Scalar String}

/-- A country is looked for among the keys first, and then without case. -/
theorem codeOf_some (countries : Keyed Scalar String) (text : String) :
    codeOf countries (some text) =
      match countries.get? (.text (trim text)) with
      | some code => .ok code
      | none => firstFolded (fold (trim text)) countries >>= fun found =>
          match found with
          | some code => .ok code
          | none => .error (.unrecognizedCountry (some text)) := rfl

/-- A market code stands in the table. -/
theorem exists_key_of_codeOf {country : Option String} {code : String}
    (ok : codeOf countries country = .ok code) : ∃ key, (key, code) ∈ countries := by
  cases country with
  | none => cases ok
  | some text =>
    rw [codeOf_some] at ok
    split at ok
    · next found =>
      cases ok
      exact ⟨_, Keyed.mem_of_get? found⟩
    · cases folded : firstFolded (fold (trim text)) countries with
      | error failure =>
        rw [folded] at ok
        cases ok
      | ok found =>
        rw [folded] at ok
        cases found with
        | none => cases ok
        | some code =>
          cases ok
          obtain ⟨key, member, -⟩ := exists_key_of_firstFolded folded
          exact ⟨_, member⟩

/-- The search for a country that comes upon a key that is no text fails there. -/
theorem codeOf_of_meetsOtherKey {text : String} (meets : MeetsOtherKey countries (trim text)) :
    ∃ key : Scalar, codeOf countries (some text) = .error (.countryKey key.kindName) := by
  obtain ⟨absent, before, key, code, after, split, differ, noText⟩ := meets
  have folded := firstFolded_eq_error_iff.2 ⟨before, key, code, after, split, differ, noText, rfl⟩
  refine ⟨key, ?_⟩
  rw [codeOf_some, Keyed.get?_eq_none_iff.2 absent, folded]
  rfl

/-- A country is known, differs from all keys, or meets a key that is no text. -/
theorem codeOf_cases (countries : Keyed Scalar String) (text : String) :
    (∃ code, codeOf countries (some text) = .ok code ∧ Knows countries (trim text)) ∨
      (codeOf countries (some text) = .error (.unrecognizedCountry (some text)) ∧
        AllDiffer countries (trim text)) ∨
      MeetsOtherKey countries (trim text) := by
  rw [codeOf_some]
  cases equal : countries.get? (.text (trim text)) with
  | some code => exact .inl ⟨code, rfl, trim text, code, Keyed.mem_of_get? equal, .inl rfl⟩
  | none =>
    cases folded : firstFolded (fold (trim text)) countries with
    | error failure =>
      obtain ⟨before, key, code, after, split, differ, noText, _⟩ := firstFolded_eq_error_iff.1 folded
      exact .inr (.inr ⟨Keyed.get?_eq_none_iff.1 equal, before, key, code, after, split, differ, noText⟩)
    | ok found =>
      cases found with
      | some code =>
        obtain ⟨key, member, same⟩ := exists_key_of_firstFolded folded
        exact .inl ⟨code, rfl, key, code, member, .inr same⟩
      | none => exact .inr (.inl ⟨rfl, allDiffer_of_firstFolded folded⟩)

theorem knows_of_codeOf {country : Option String} {code : String}
    (ok : codeOf countries country = .ok code) :
    ∃ text, country = some text ∧ Knows countries (trim text) := by
  cases country with
  | none => cases ok
  | some text =>
    refine ⟨text, rfl, ?_⟩
    rcases codeOf_cases countries text with ⟨_, _, knows⟩ | ⟨failed, _⟩ | meets
    · exact knows
    · cases failed.symm.trans ok
    · obtain ⟨_, failed⟩ := codeOf_of_meetsOtherKey meets
      cases failed.symm.trans ok

/-- A failure that is told is about a country that the table does not know. -/
theorem unknown_of_codeOf {country : Option String} {failure : Failure}
    (failed : codeOf countries country = .error failure) (told : failure.issueKind?.isSome = true) :
    failure = .unrecognizedCountry country ∧ ∀ text ∈ country, ¬Knows countries (trim text) := by
  cases country with
  | none =>
    cases failed
    exact ⟨rfl, nofun⟩
  | some text =>
    rcases codeOf_cases countries text with ⟨_, ok, _⟩ | ⟨unknown, differ⟩ | meets
    · cases ok.symm.trans failed
    · cases unknown.symm.trans failed
      exact ⟨rfl, fun _ same => Option.some.inj same ▸ not_knows differ⟩
    · obtain ⟨_, other⟩ := codeOf_of_meetsOtherKey meets
      cases other.symm.trans failed
      cases told

end CodeOf

end Codebook.Market
