import Codebook.Report
import Mathlib.Data.List.Forall2

/-!
# Outcomes of reports

Journals are put one after the other, so reports are a lawful monad, and the outcome of a computation
does not depend on what its parts wrote down: `outcome` takes `bind` of reports to `bind` of outcomes.
A statement about outcomes is therefore proved without a look at the journal. The issues of a computation
that succeeds are those of its parts, one after the other.
-/

namespace Codebook

/-! ## Journals -/

namespace Journal

theorem append_def (a b : Journal) : a ++ b = ⟨a.issues ++ b.issues, a.events ++ b.events⟩ := rfl

theorem empty_append (a : Journal) : Journal.empty ++ a = a := rfl

theorem append_empty (a : Journal) : a ++ Journal.empty = a := by
  rw [append_def, empty, List.append_nil, List.append_nil]

theorem append_assoc (a b c : Journal) : a ++ b ++ c = a ++ (b ++ c) := by
  simp only [append_def, List.append_assoc]

end Journal

/-! ## Reports -/

namespace Report

variable {ε α β : Type}

theorem ext {a b : Report α} (outcome : a.outcome = b.outcome) (journal : a.journal = b.journal) :
    a = b := by
  cases a
  cases b
  simp_all

instance : LawfulMonad Report := LawfulMonad.mk' Report
  (by
    intro α x
    rcases x with ⟨outcome, journal⟩
    cases outcome with
    | error failure => rfl
    | ok a => exact ext rfl (Journal.append_empty journal))
  (by
    intro α β a next
    exact ext rfl (Journal.empty_append _))
  (by
    intro α β γ x f g
    rcases x with ⟨outcome, journal⟩
    cases outcome with
    | error failure => rfl
    | ok a =>
      show bind (bind ⟨.ok a, journal⟩ f) g = bind ⟨.ok a, journal⟩ fun a => bind (f a) g
      rcases made : f a with ⟨outcome, more⟩
      cases outcome with
      | error failure => simp [bind, made]
      | ok b => simp [bind, made, Journal.append_assoc])

@[simp]
theorem outcome_pure (a : α) : (Pure.pure a : Report α).outcome = .ok a := rfl

@[simp]
theorem outcome_bind (first : Report α) (next : α → Report β) :
    (first >>= next).outcome = first.outcome >>= fun a => (next a).outcome := by
  rcases first with ⟨outcome, journal⟩
  cases outcome <;> rfl

@[simp]
theorem outcome_ofExcept (outcome : Except Failure α) : (ofExcept outcome).outcome = outcome := rfl

@[simp]
theorem outcome_fail (failure : Failure) : (fail failure : Report α).outcome = .error failure := rfl

@[simp]
theorem outcome_event (level : Level) (text : String) : (event level text).outcome = .ok () := rfl

@[simp]
theorem outcome_issue (i : Issue) : (issue i).outcome = .ok () := rfl

/-- The outcome of a computation over a list is that of the outcomes of its parts. -/
theorem outcome_mapM (f : α → Report β) (items : List α) :
    (items.mapM f).outcome = items.mapM fun a => (f a).outcome := by
  induction items with
  | nil => rfl
  | cons a rest ih => simp only [List.mapM_cons, outcome_bind, outcome_pure, ih]; rfl

theorem mapM_congr {f g : α → Report β} {items : List α} (same : ∀ a ∈ items, f a = g a) :
    items.mapM f = items.mapM g := by
  induction items with
  | nil => rfl
  | cons a rest ih =>
    obtain ⟨first, others⟩ := List.forall_mem_cons.1 same
    rw [List.mapM_cons, List.mapM_cons, first, ih others]

theorem outcome_forM {f : α → Report Unit} (items : List α) (ok : ∀ a ∈ items, (f a).outcome = .ok ()) :
    (items.forM f).outcome = .ok () := by
  induction items with
  | nil => rfl
  | cons a rest ih =>
    show (f a >>= fun _ => rest.forM f).outcome = _
    rw [outcome_bind, ok a List.mem_cons_self]
    exact ih fun b member => ok b (.tail _ member)

/-! ## Journals of reports -/

theorem bind_of_error {first : Report α} {failure : Failure} (failed : first.outcome = .error failure)
    (next : α → Report β) : first >>= next = ⟨.error failure, first.journal⟩ := by
  rcases first with ⟨outcome, journal⟩
  cases failed
  rfl

theorem bind_of_ok {first : Report α} {a : α} (ok : first.outcome = .ok a) (next : α → Report β) :
    first >>= next = ⟨(next a).outcome, first.journal ++ (next a).journal⟩ := by
  rcases first with ⟨outcome, journal⟩
  cases ok
  rfl

/-- Where a computation goes on and succeeds, its first part has succeeded. -/
theorem exists_of_bind_ok {first : Report α} {next : α → Report β} {b : β}
    (ok : (first >>= next).outcome = .ok b) :
    ∃ a, first.outcome = .ok a ∧ (next a).outcome = .ok b := by
  cases made : first.outcome with
  | error failure =>
    rw [bind_of_error made] at ok
    cases ok
  | ok a =>
    rw [bind_of_ok made] at ok
    exact ⟨a, rfl, ok⟩

theorem issues_append (a b : Journal) : (a ++ b).issues = a.issues ++ b.issues := rfl

/-- Nothing is written down where neither part writes something down. -/
theorem issues_bind_eq_nil {first : Report α} {next : α → Report β} (before : first.journal.issues = [])
    (after : ∀ a, (next a).journal.issues = []) : (first >>= next).journal.issues = [] := by
  cases made : first.outcome with
  | error failure => rw [bind_of_error made, before]
  | ok a => rw [bind_of_ok made, issues_append, before, after, List.append_nil]

/-- What goes on without an issue leaves those of the first part. -/
theorem issues_bind_eq {next : α → Report β} (quiet : ∀ a, (next a).journal.issues = [])
    (first : Report α) : (first >>= next).journal.issues = first.journal.issues := by
  cases made : first.outcome with
  | error failure => rw [bind_of_error made]
  | ok a => rw [bind_of_ok made, issues_append, quiet, List.append_nil]

/-- What is made of a result at the end adds no issue. -/
theorem issues_bind_pure (first : Report α) (f : α → β) :
    (first >>= fun a => (Pure.pure (f a) : Report β)).journal.issues = first.journal.issues :=
  issues_bind_eq (fun _ => rfl) first

/-- A successful computation over a list leaves the issues of its parts, one after the other. -/
theorem issues_mapM {f : α → Report β} {items : List α} {results : List β}
    (ok : (items.mapM f).outcome = .ok results) :
    (items.mapM f).journal.issues = items.flatMap fun a => (f a).journal.issues := by
  induction items generalizing results with
  | nil => rfl
  | cons a rest ih =>
    rw [List.mapM_cons] at ok ⊢
    cases first : (f a).outcome with
    | error failure =>
      rw [bind_of_error first] at ok
      cases ok
    | ok b =>
      rw [bind_of_ok first] at ok ⊢
      cases others : (rest.mapM f).outcome with
      | error failure =>
        rw [bind_of_error others] at ok
        cases ok
      | ok bs =>
        rw [issues_append, issues_bind_pure, ih others, List.flatMap_cons]

theorem issues_forM (issueOf : α → Issue) (items : List α) :
    (items.forM fun a => issue (issueOf a)).journal.issues = items.map issueOf := by
  induction items with
  | nil => rfl
  | cons a rest ih =>
    show issueOf a :: (rest.forM fun a => issue (issueOf a)).journal.issues = _
    rw [ih, List.map_cons]

/-! ## Outcomes -/

theorem exists_of_bind_eq_ok {first : Except ε α} {next : α → Except ε β} {b : β}
    (ok : first >>= next = .ok b) : ∃ a, first = .ok a ∧ next a = .ok b := by
  cases first with
  | error e => cases ok
  | ok a => exact ⟨a, rfl, ok⟩

theorem exists_of_map_eq_ok {first : Except ε α} {f : α → β} {b : β} (ok : first.map f = .ok b) :
    ∃ a, first = .ok a ∧ f a = b := by
  cases first with
  | error e => cases ok
  | ok a => exact ⟨a, rfl, Except.ok.inj ok⟩

theorem eq_ok_of_mapError {ε' : Type} {first : Except ε α} {f : ε → ε'} {a : α}
    (ok : first.mapError f = .ok a) : first = .ok a := by
  cases first with
  | error e => cases ok
  | ok b => rw [Except.ok.inj ok]

theorem eq_ok_of_toOption {made : Except ε α} {a : α} (shown : made.toOption = some a) : made = .ok a := by
  cases made with
  | error e => cases shown
  | ok b => rw [Option.some.inj shown]

/-- What is known of a result once it is computed. -/
theorem exists_of_toOption_map {made : Except ε α} {f : α → β} {b : β}
    (shown : made.toOption.map f = some b) : ∃ a, made = .ok a ∧ f a = b := by
  obtain ⟨a, first, same⟩ := Option.map_eq_some_iff.1 shown
  exact ⟨a, eq_ok_of_toOption first, same⟩

/-! ## Outcomes over lists -/

theorem mapM_of_forall {f : α → Except ε β} {g : α → β} {items : List α}
    (ok : ∀ a ∈ items, f a = .ok (g a)) : items.mapM f = .ok (items.map g) := by
  induction items with
  | nil => rfl
  | cons a rest ih =>
    have first := ok a List.mem_cons_self
    have others := ih fun b member => ok b (List.mem_cons_of_mem a member)
    rw [List.mapM_cons, first, others]
    rfl

theorem exists_mapM_ok {f : α → Except ε β} {items : List α} (ok : ∀ a ∈ items, ∃ b, f a = .ok b) :
    ∃ results, items.mapM f = .ok results := by
  induction items with
  | nil => exact ⟨[], rfl⟩
  | cons a rest ih =>
    obtain ⟨b, first⟩ := ok a List.mem_cons_self
    obtain ⟨bs, others⟩ := ih fun c member => ok c (.tail _ member)
    exact ⟨b :: bs, by rw [List.mapM_cons, first, others]; rfl⟩

/-- Where a computation over a list succeeds, each of its parts has succeeded. -/
theorem forall₂_of_mapM {f : α → Except ε β} {items : List α} {results : List β}
    (ok : items.mapM f = .ok results) : List.Forall₂ (fun a b => f a = .ok b) items results := by
  induction items generalizing results with
  | nil =>
    cases ok
    exact .nil
  | cons a rest ih =>
    rw [List.mapM_cons] at ok
    cases first : f a with
    | error e =>
      rw [first] at ok
      cases ok
    | ok b =>
      rw [first] at ok
      cases others : rest.mapM f with
      | error e =>
        rw [others] at ok
        cases ok
      | ok bs =>
        rw [others] at ok
        cases ok
        exact .cons first (ih others)

theorem exists_of_mem_mapM {f : α → Except ε β} {items : List α} {results : List β}
    (ok : items.mapM f = .ok results) {b : β} (member : b ∈ results) : ∃ a ∈ items, f a = .ok b := by
  have related := forall₂_of_mapM ok
  clear ok
  induction related with
  | nil => cases member
  | cons first others ih =>
    rcases List.mem_cons.1 member with rfl | member
    · exact ⟨_, List.mem_cons_self, first⟩
    · obtain ⟨a, among, made⟩ := ih member
      exact ⟨a, .tail _ among, made⟩

theorem exists_of_mapM {f : α → Except ε β} {items : List α} {results : List β}
    (ok : items.mapM f = .ok results) : ∀ a ∈ items, ∃ b, f a = .ok b := by
  have related := forall₂_of_mapM ok
  clear ok
  induction related with
  | nil => exact nofun
  | cons first _ ih => exact List.forall_mem_cons.2 ⟨⟨_, first⟩, ih⟩

theorem map_of_mapM {γ : Type} {f : α → Except ε β} {g : β → γ} {h : α → γ}
    (each : ∀ a b, f a = .ok b → g b = h a) {items : List α} {results : List β}
    (ok : items.mapM f = .ok results) : results.map g = items.map h := by
  have related := forall₂_of_mapM ok
  clear ok
  induction related with
  | nil => rfl
  | cons first _ ih => rw [List.map_cons, each _ _ first, ih, List.map_cons]

/-- A computation whose success is known for each item succeeds exactly where it does for all items. -/
theorem mapM_eq_ok_iff {f : α → Except ε β} {good : α → Prop} {g : α → β}
    (each : ∀ a b, f a = .ok b ↔ good a ∧ b = g a) {items : List α} {results : List β} :
    items.mapM f = .ok results ↔ (∀ a ∈ items, good a) ∧ results = items.map g := by
  constructor
  · intro ok
    have related := (forall₂_of_mapM ok).imp fun a b => (each a b).1
    obtain ⟨allGood, same⟩ := (List.forall₂_and_left items results).1 related
    refine ⟨allGood, ?_⟩
    have mapped : List.Forall₂ (fun b c => c = b) (items.map g) results :=
      List.forall₂_map_left_iff.2 same
    exact List.forall₂_eq_eq_eq ▸ mapped.flip
  · rintro ⟨allGood, rfl⟩
    exact mapM_of_forall fun a member => (each a (g a)).2 ⟨allGood a member, rfl⟩

/-! ## Failures -/

/-- A computation that goes on fails in its first part, or in the second one with what the first has made. -/
theorem bind_eq_error_iff {first : Report α} {next : α → Report β} {failure : Failure} :
    (first >>= next).outcome = .error failure ↔
      first.outcome = .error failure ∨ ∃ a, first.outcome = .ok a ∧ (next a).outcome = .error failure := by
  cases made : first.outcome with
  | error other =>
    rw [bind_of_error made]
    simp
  | ok a =>
    rw [bind_of_ok made]
    simp

/-- A computation over a list fails at the first item where it fails. -/
theorem mapM_eq_error_iff {f : α → Report β} {items : List α} {failure : Failure} :
    (items.mapM f).outcome = .error failure ↔
      ∃ before a after, items = before ++ a :: after ∧
        (∀ b ∈ before, ∃ result, (f b).outcome = .ok result) ∧ (f a).outcome = .error failure := by
  induction items with
  | nil =>
    refine ⟨nofun, ?_⟩
    rintro ⟨_ | ⟨_, _⟩, _, _, split, _⟩ <;> cases split
  | cons first rest ih =>
    rw [List.mapM_cons, bind_eq_error_iff]
    constructor
    · rintro (failed | ⟨result, made, failed⟩)
      · exact ⟨[], first, rest, rfl, nofun, failed⟩
      · rcases bind_eq_error_iff.1 failed with failed | ⟨_, _, never⟩
        · obtain ⟨before, a, after, rfl, earlier, failed⟩ := ih.1 failed
          exact ⟨first :: before, a, after, rfl, List.forall_mem_cons.2 ⟨⟨result, made⟩, earlier⟩, failed⟩
        · cases never
    · rintro ⟨_ | ⟨b, before⟩, a, after, split, earlier, failed⟩
      · cases split
        exact .inl failed
      · cases split
        obtain ⟨⟨result, made⟩, others⟩ := List.forall_mem_cons.1 earlier
        have rest := ih.2 ⟨before, a, after, rfl, others, failed⟩
        exact .inr ⟨result, made, bind_eq_error_iff.2 (.inl rest)⟩

/-- A computation over a list that fails leaves the issues of the parts up to the one that fails. -/
theorem issues_mapM_of_error {f : α → Report β} {before after : List α} {a : α} {failure : Failure}
    (earlier : ∀ b ∈ before, ∃ result, (f b).outcome = .ok result)
    (failed : (f a).outcome = .error failure) :
    ((before ++ a :: after).mapM f).journal.issues =
      before.flatMap (fun b => (f b).journal.issues) ++ (f a).journal.issues := by
  induction before with
  | nil =>
    rw [List.nil_append, List.mapM_cons, bind_of_error failed]
    rfl
  | cons b before ih =>
    obtain ⟨⟨result, made⟩, others⟩ := List.forall_mem_cons.1 earlier
    rw [List.cons_append, List.mapM_cons, bind_of_ok made, issues_append, issues_bind_pure, ih others,
      List.flatMap_cons, List.append_assoc]

end Report

end Codebook
