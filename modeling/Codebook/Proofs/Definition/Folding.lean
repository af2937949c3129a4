import Codebook.Proofs.Definition.Label

/-!
# Labels that are read back

A label is put on one line as `Folds` says: of the blanks around line breaks the longest run is taken from the
left on, and one space is written for it. What is on one line already stays as it is. So the string of a label
is read whole wherever it stands, unless a quote follows it, and it stands for a label with the same string
(`lex_quoteLabel`).
-/

namespace Codebook.Definition

open Codebook.Text

/-! ## Runs of blanks -/

/-- Whether characters are blanks with line breaks among them: blanks, line breaks and blanks. -/
def IsBreakRun (run : List Char) : Prop :=
  ∃ before breaks after, run = before ++ breaks ++ after ∧ breaks ≠ [] ∧
    (∀ c ∈ before, isBlank c = true) ∧ (∀ c ∈ breaks, isLineBreak c = true) ∧
    ∀ c ∈ after, isBlank c = true

/-- How each run of blanks with line breaks becomes one space. At every place the longest run is taken; a
character at which none begins is kept. -/
inductive Folds : List Char → List Char → Prop
  | nil : Folds [] []
  | run {run rest folded : List Char} : IsBreakRun run →
    (∀ other, IsBreakRun other → other <+: run ++ rest → other.length ≤ run.length) →
    Folds rest folded → Folds (run ++ rest) (' ' :: folded)
  | keep {c : Char} {rest folded : List Char} : (∀ run, IsBreakRun run → ¬run <+: c :: rest) →
    Folds rest folded → Folds (c :: rest) (c :: folded)

theorem isBlank_of_isLineBreak {c : Char} (breaks : isLineBreak c = true) : isBlank c = true := by
  simp only [isLineBreak, Bool.or_eq_true, beq_iff_eq] at breaks
  rcases breaks with rfl | rfl <;> decide

theorem isBreakRun_iff {run : List Char} :
    IsBreakRun run ↔ (∀ c ∈ run, isBlank c = true) ∧ ∃ c ∈ run, isLineBreak c = true := by
  constructor
  · rintro ⟨before, breaks, after, rfl, nonempty, blankBefore, broken, blankAfter⟩
    obtain ⟨c, rest, rfl⟩ := List.exists_cons_of_ne_nil nonempty
    refine ⟨fun d member => ?_, c, by simp, broken c List.mem_cons_self⟩
    rcases List.mem_append.1 member with member | member
    · exact (List.mem_append.1 member).elim (blankBefore d) fun inside =>
        isBlank_of_isLineBreak (broken d inside)
    · exact blankAfter d member
  · rintro ⟨blank, c, member, broken⟩
    obtain ⟨before, after, rfl⟩ := List.append_of_mem member
    exact ⟨before, [c], after, by simp, List.cons_ne_nil _ _, fun d inside => blank d (by simp [inside]),
      by simpa using broken, fun d inside => blank d (by simp [inside])⟩

theorem IsBreakRun.ne_nil {run : List Char} (isRun : IsBreakRun run) : run ≠ [] := by
  obtain ⟨c, member, -⟩ := (isBreakRun_iff.1 isRun).2
  exact List.ne_nil_of_mem member

/-- Characters fold in one way only. -/
theorem Folds.unique {chars a b : List Char} (first : Folds chars a) (second : Folds chars b) : a = b := by
  induction first generalizing b with
  | nil =>
    generalize split : [] = chars at second
    cases second with
    | nil => rfl
    | run isRun => exact absurd (List.append_eq_nil_iff.1 split.symm).1 isRun.ne_nil
    | keep => cases split
  | @run run rest folded isRun longest _ ih =>
    generalize split : run ++ rest = chars at second
    cases second with
    | nil => exact absurd (List.append_eq_nil_iff.1 split).1 isRun.ne_nil
    | @run other more _ otherRun otherLongest others =>
      have sameLength := Nat.le_antisymm (otherLongest run isRun ⟨rest, split⟩)
        (longest other otherRun ⟨more, split.symm⟩)
      obtain ⟨-, rfl⟩ := List.append_inj split sameLength
      rw [ih others]
    | keep none _ => exact absurd ⟨rest, split⟩ (none run isRun)
  | @keep c rest folded none _ ih =>
    generalize split : c :: rest = chars at second
    cases second with
    | nil => cases split
    | @run other more _ otherRun => exact absurd ⟨more, split.symm⟩ (none other otherRun)
    | keep _ others =>
      obtain ⟨rfl, rfl⟩ := List.cons.inj split
      rw [ih others]

/-! ## Labels on one line -/

/-- Blanks at the front of a text end before a character that is none. -/
theorem prefix_of_blank {run front rest : List Char} (blank : ∀ c ∈ run, isBlank c = true)
    (stop : ∀ c ∈ rest.head?, isBlank c = false) (atFront : run <+: front ++ rest) : run <+: front := by
  rcases List.prefix_or_prefix_of_prefix atFront (List.prefix_append front rest) with within | beyond
  · exact within
  · obtain ⟨more, rfl⟩ := beyond
    rw [List.prefix_append_right_inj] at atFront
    cases more with
    | nil => exact (List.append_nil front).symm ▸ List.prefix_rfl
    | cons c more =>
      obtain ⟨others, rfl⟩ := atFront
      cases (blank c (by simp)).symm.trans (stop c rfl)

/-- Characters among which no line break is stay as they are. -/
theorem folds_append_of_sameLine {kept rest folded : List Char}
    (sameLine : ∀ c ∈ kept, isLineBreak c = false) (stop : ∀ c ∈ rest.head?, isBlank c = false)
    (folds : Folds rest folded) : Folds (kept ++ rest) (kept ++ folded) := by
  induction kept with
  | nil => exact folds
  | cons c kept ih =>
    refine .keep (fun run isRun atFront => ?_) (ih fun d member => sameLine d (.tail c member))
    have atFront : run <+: (c :: kept) ++ rest := atFront
    obtain ⟨blank, d, member, broken⟩ := isBreakRun_iff.1 isRun
    have inFront := (prefix_of_blank blank stop atFront).subset member
    cases (sameLine d inFront).symm.trans broken

/-- A finished run of blanks is closed as it folds. -/
theorem folds_closeRun {blanks rest folded : List Char} (blank : ∀ c ∈ blanks, isBlank c = true)
    (stop : ∀ c ∈ rest.head?, isBlank c = false) (folds : Folds rest folded) :
    Folds (blanks.reverse ++ rest) (foldLinesFrom.closeRun blanks ++ folded) := by
  unfold foldLinesFrom.closeRun
  split
  · next broken =>
    have isRun : IsBreakRun blanks.reverse := by
      rw [isBreakRun_iff]
      simpa using ⟨blank, List.any_eq_true.1 broken⟩
    refine .run isRun (fun other otherRun atFront => ?_) folds
    exact (prefix_of_blank (isBreakRun_iff.1 otherRun).1 stop atFront).length_le
  · next unbroken =>
    refine folds_append_of_sameLine (fun c member => ?_) stop folds
    simpa using fun broken => unbroken (List.any_eq_true.2 ⟨c, List.mem_reverse.1 member, broken⟩)

theorem folds_foldLinesFrom {blanks : List Char} (blank : ∀ c ∈ blanks, isBlank c = true)
    (chars : List Char) : Folds (blanks.reverse ++ chars) (foldLinesFrom blanks chars) := by
  fun_induction foldLinesFrom blanks chars with
  | case1 blanks =>
    have folds : Folds (blanks.reverse ++ []) (foldLinesFrom.closeRun blanks ++ []) :=
      folds_closeRun blank (by simp) .nil
    rwa [List.append_nil (foldLinesFrom.closeRun blanks)] at folds
  | case2 blanks c rest isBlank ih =>
    have folds := ih (List.forall_mem_cons.2 ⟨isBlank, blank⟩)
    rwa [List.reverse_cons, List.append_assoc, List.singleton_append] at folds
  | case3 blanks c rest isDark ih =>
    have stop : ∀ d ∈ (c :: rest).head?, isBlank d = false := by simpa using isDark
    refine folds_closeRun blank stop (.keep (fun run isRun atFront => ?_) (ih (List.forall_mem_nil _)))
    have none : run <+: [] := prefix_of_blank (isBreakRun_iff.1 isRun).1 stop atFront
    exact isRun.ne_nil (List.prefix_nil.1 none)

/-- Putting characters on one line is what folding them means. -/
theorem folds_iff {chars folded : List Char} : Folds chars folded ↔ folded = foldLines chars := by
  have none : ∀ c ∈ ([] : List Char), isBlank c = true := nofun
  have folds : Folds chars (foldLines chars) := folds_foldLinesFrom none chars
  constructor
  · exact fun other => other.unique folds
  · rintro rfl
    exact folds

theorem foldLines_eq_self {chars : List Char} (sameLine : ∀ c ∈ chars, isLineBreak c = false) :
    foldLines chars = chars := by
  have folds : Folds (chars ++ []) (chars ++ []) := folds_append_of_sameLine sameLine nofun .nil
  rw [List.append_nil] at folds
  exact (folds_iff.1 folds).symm

/-- A label on one line is on one line already. -/
theorem onOneLine_onOneLine (label : String) : onOneLine (onOneLine label) = onOneLine label := by
  have sameLine : ∀ c ∈ foldLines label.toList, isLineBreak c = false := foldLinesFrom_sameLine [] _
  rw [onOneLine, onOneLine, String.toList_ofList, foldLines_eq_self sameLine]

/-! ## Strings of labels -/

theorem quoteLabel_eq (label : String) : quoteLabel label = "\"" ++ writtenLabel label ++ "\"" := by
  rw [← String.toList_inj, quoteLabel, writtenLabel]
  simp

theorem quoteLabel_onOneLine (label : String) : quoteLabel (onOneLine label) = quoteLabel label := by
  have same := congrArg String.toList (onOneLine_onOneLine label)
  rw [onOneLine, String.toList_ofList] at same
  rw [quoteLabel, same, onOneLine, String.toList_ofList, quoteLabel]

/-- The string of a label is read whole in front of what does not begin with a quote, and what comes after it
is read as by itself. It stands for the label on one line, which has the same string. -/
theorem lex_quoteLabel (label : String) {rest : String} (single : rest.toList.head? ≠ some '"') :
    ∃ l : Lexeme, lex (quoteLabel label ++ rest) = l :: lex rest ∧
      l.line = 1 ∧ (∃ written, l.form = .string written) ∧ l.text = quoteLabel label ∧
      l.meaning = onOneLine label ∧ (∀ folded, Folds label.toList folded ↔ folded = l.meaning.toList) ∧
      onOneLine l.meaning = l.meaning ∧ quoteLabel l.meaning = quoteLabel label := by
  have meaning : (Lexeme.mk (.string (writtenLabel label)) 1).meaning = onOneLine label :=
    unquote_writtenLabel label
  refine ⟨⟨.string (writtenLabel label), 1⟩, ?_, rfl, ⟨_, rfl⟩, (quoteLabel_eq label).symm, meaning, ?_⟩
  · rw [lex, String.toList_append, lexFrom_quoteLabel 1 label single, lex]
  · rw [meaning]
    refine ⟨fun folded => ?_, onOneLine_onOneLine label, quoteLabel_onOneLine label⟩
    rw [folds_iff, onOneLine, String.toList_ofList]

/-- A label of quotes around a line break, with a stray quote after its string. -/
theorem lex_quoteLabel_quotes :
    " \"".toList.head? ≠ some '"' ∧
      ∃ l : Lexeme, lex (quoteLabel "\"\n \"\"" ++ " \"") = l :: lex " \"" ∧
        l.line = 1 ∧ (∃ written, l.form = .string written) ∧ l.text = "\"\"\" \"\"\"\"\"" ∧
        l.meaning = "\" \"\"" ∧
        (∀ folded, Folds "\"\n \"\"".toList folded ↔ folded = "\" \"\"".toList) ∧
        onOneLine "\" \"\"" = "\" \"\"" ∧ quoteLabel "\" \"\"" = "\"\"\" \"\"\"\"\"" := by
  have single : " \"".toList.head? ≠ some '"' := by decide
  have text : quoteLabel "\"\n \"\"" = "\"\"\" \"\"\"\"\"" := by decide
  have meaning : onOneLine "\"\n \"\"" = "\" \"\"" := by decide
  have read := lex_quoteLabel "\"\n \"\"" single
  rw [meaning] at read
  obtain ⟨l, lexemes, line, form, shown, meant, folds, oneLine, same⟩ := read
  rw [meant] at folds oneLine same
  exact ⟨single, l, lexemes, line, form, shown.trans text, meant, folds, oneLine, same.trans text⟩

end Codebook.Definition
