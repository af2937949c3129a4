import Codebook.Schema.Validation
import Mathlib.Logic.Basic

/-!
# Searches without violations

No step of a search takes back a violation (`Grows`). So where a search comes to its end without one, each
of its steps does: in a sequence (`yields_bind`), in a loop (`forall_of_yields_forIn`), and under a change
of violations.
-/

namespace Codebook.Search

variable {α β : Type}

/-- A search comes to its end with a value and without a violation. -/
def Yields (s : Search α) (a : α) : Prop :=
  s.run.run #[] = (.ok a, #[])

/-- A search keeps the violations that were found before. -/
def Grows (s : Search α) : Prop :=
  ∀ before, ∃ more, (s.run.run before).2 = before ++ more

/-! ## Single steps -/

theorem run_bind (s : Search α) (k : α → Search β) (before : Array Violation) :
    (s >>= k).run.run before =
      match s.run.run before with
      | (.ok a, found) => (k a).run.run found
      | (.error fault, found) => (.error fault, found) := by
  show (ExceptT.bindCont k (s.run.run before).1) (s.run.run before).2 = _
  rcases s.run.run before with ⟨_ | _, _⟩ <;> rfl

theorem yields_pure {a b : α} : Yields (pure a) b ↔ a = b :=
  ⟨fun h => Except.ok.inj (Prod.mk.inj h).1, fun h => h ▸ rfl⟩

theorem not_yields_add {v : Violation} {a : Unit} : ¬ Yields (Search.add v) a :=
  fun h => by simpa using congrArg Array.size (Prod.mk.inj h).2

theorem yields_changed {change : Violation → Violation} {s : Search Unit} :
    Yields (Search.changed change s) () ↔ Yields s () := by
  have run : (Search.changed change s).run.run #[] =
      ((s.run.run #[]).1, #[] ++ (s.run.run #[]).2.map change) := rfl
  rw [Yields, run, Yields, Array.empty_append]
  rcases s.run.run #[] with ⟨outcome, found⟩
  rw [Prod.mk.injEq, Prod.mk.injEq, Array.map_eq_empty_iff]

theorem grows_pure (a : α) : Grows (pure a) :=
  fun _ => ⟨#[], (Array.append_empty).symm⟩

theorem grows_get (value : Except SchemaFault α) : Grows (Search.get value) :=
  fun _ => ⟨#[], (Array.append_empty).symm⟩

theorem grows_throw (fault : SchemaFault) : Grows (throw fault : Search α) :=
  fun _ => ⟨#[], (Array.append_empty).symm⟩

theorem grows_add (v : Violation) : Grows (Search.add v) :=
  fun _ => ⟨#[v], rfl⟩

theorem grows_changed (change : Violation → Violation) (s : Search Unit) :
    Grows (Search.changed change s) :=
  fun _ => ⟨_, rfl⟩

/-! ## Steps one after the other -/

theorem grows_bind {s : Search α} {k : α → Search β} (first : Grows s) (later : ∀ a, Grows (k a)) :
    Grows (s >>= k) := by
  intro before
  obtain ⟨more, found⟩ := first before
  rw [run_bind]
  rcases run : s.run.run before with ⟨_ | a, mid⟩ <;> obtain rfl : mid = before ++ more := by rw [← found, run]
  · exact ⟨more, rfl⟩
  · obtain ⟨others, rest⟩ := later a (before ++ more)
    exact ⟨more ++ others, by rw [rest, Array.append_assoc]⟩

theorem yields_bind {s : Search α} {k : α → Search β} {b : β} (later : ∀ a, Grows (k a))
    (yields : Yields (s >>= k) b) : ∃ a, Yields s a ∧ Yields (k a) b := by
  rw [Yields, run_bind] at yields
  rcases run : s.run.run #[] with ⟨_ | a, found⟩
  · rw [run] at yields
    cases yields
  · rw [run] at yields
    have onward : (k a).run.run found = (.ok b, #[]) := yields
    obtain ⟨more, rest⟩ := later a found
    rw [onward] at rest
    obtain ⟨rfl, -⟩ := Array.append_eq_empty_iff.1 rest.symm
    exact ⟨a, run, onward⟩

theorem yields_get_bind {value : Except SchemaFault α} {k : α → Search β} {b : β}
    (yields : Yields (Search.get value >>= k) b) : ∃ a, value = .ok a ∧ Yields (k a) b := by
  cases value with
  | error fault => cases yields
  | ok a => exact ⟨a, rfl, yields⟩

/-! ## Loops -/

variable {items : List α} {body : α → PUnit → Search (ForInStep PUnit)}

theorem grows_forIn (grows : ∀ a ∈ items, Grows (body a ⟨⟩)) : Grows (forIn items PUnit.unit body) := by
  induction items with
  | nil => exact grows_pure _
  | cons a rest ih =>
    rw [List.forIn_cons]
    refine grows_bind (grows a List.mem_cons_self) fun step => ?_
    cases step with
    | done _ => exact grows_pure _
    | yield _ => exact ih fun b member => grows b (.tail _ member)

/-- What a round shows that goes on without a violation holds for all items of a loop. -/
theorem forall_of_yields_forIn {P : α → Prop} (grows : ∀ a ∈ items, Grows (body a ⟨⟩))
    (shows_ : ∀ a ∈ items, ∀ step, Yields (body a ⟨⟩) step → step = .yield ⟨⟩ ∧ P a)
    (yields : Yields (forIn items PUnit.unit body) ⟨⟩) : ∀ a ∈ items, P a := by
  induction items with
  | nil => exact fun a member => nomatch member
  | cons a rest ih =>
    have later (b : α) (member : b ∈ rest) : b ∈ a :: rest := .tail _ member
    rw [List.forIn_cons] at yields
    obtain ⟨step, first, others⟩ := yields_bind (fun step => by
      cases step with
      | done _ => exact grows_pure _
      | yield _ => exact grows_forIn fun b member => grows b (later b member)) yields
    obtain ⟨rfl, here⟩ := shows_ a List.mem_cons_self step first
    exact List.forall_mem_cons.2 ⟨here,
      ih (fun b member => grows b (later b member)) (fun b member => shows_ b (later b member)) others⟩

theorem yields_goOn {s : Search Unit} {step : ForInStep PUnit}
    (yields : Yields (do s; pure (ForInStep.yield PUnit.unit)) step) :
    step = .yield ⟨⟩ ∧ Yields s () := by
  obtain ⟨⟨⟩, first, last⟩ := yields_bind (fun _ => grows_pure _) yields
  exact ⟨(yields_pure.1 last).symm, first⟩

end Codebook.Search
