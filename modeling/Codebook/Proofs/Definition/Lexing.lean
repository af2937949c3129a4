import Codebook.Definition.Lexeme
import Codebook.Proofs.Text.Blank

/-!
# Lexing by parts

What one character, word or string at the front of a text contributes to its lexemes, and where a text
can be cut without a change to them: before a line feed always, and before a mark at its end. Since no
lexeme crosses a line feed, `lexLines` gives the lexemes of a text line by line.
-/

namespace Codebook.Definition

open Codebook.Text

/-! ## Classes of characters -/

theorem Mark.ofChar?_char (mark : Mark) : Mark.ofChar? mark.char = some mark := by
  cases mark <;> decide

theorem Mark.char_of_ofChar? {c : Char} {mark : Mark} (found : Mark.ofChar? c = some mark) :
    mark.char = c := by
  unfold Mark.ofChar? at found
  simpa using List.find?_some found

theorem Mark.isBlank_char (mark : Mark) : isBlank mark.char = false := by
  cases mark <;> decide

theorem Mark.isWordChar_char (mark : Mark) : isWordChar mark.char = false := by
  cases mark <;> decide

theorem Mark.char_ne_quote (mark : Mark) : mark.char ≠ '"' := by
  cases mark <;> decide

theorem Mark.char_ne_newline (mark : Mark) : mark.char ≠ '\n' := by
  cases mark <;> decide

theorem isBlank_of_isWordChar {c : Char} (inWord : isWordChar c = true) : isBlank c = false := by
  simp only [isWordChar, Bool.and_eq_true, Bool.not_eq_true'] at inWord
  exact inWord.1.1

theorem ne_quote_of_isWordChar {c : Char} (inWord : isWordChar c = true) : c ≠ '"' := by
  simp only [isWordChar, Bool.and_eq_true, bne_iff_ne] at inWord
  exact inWord.1.2

theorem ofChar?_of_isWordChar {c : Char} (inWord : isWordChar c = true) :
    Mark.ofChar? c = none := by
  simp only [isWordChar, Bool.and_eq_true, Option.isNone_iff_eq_none] at inWord
  exact inWord.2

theorem isBlank_newline : isBlank '\n' = true := by decide

theorem ne_newline_of_isBlank_eq_false {c : Char} (dark : isBlank c = false) : c ≠ '\n' := by
  rintro rfl
  cases isBlank_newline.symm.trans dark

/-! ## The front of a text -/

section Front

variable {line : Nat} {rest : List Char}

theorem lexFrom_nil : lexFrom line [] = [] := by
  rw [lexFrom]

theorem lexFrom_newline : lexFrom line ('\n' :: rest) = lexFrom (line + 1) rest := by
  rw [lexFrom]
  rfl

theorem lexFrom_blank {c : Char} (blank : isBlank c = true) (sameLine : c ≠ '\n') :
    lexFrom line (c :: rest) = lexFrom line rest := by
  rw [lexFrom]
  simp only [beq_eq_false_iff_ne.2 sameLine, blank, Bool.false_eq_true, ↓reduceIte]

theorem lexFrom_string {inside after : List Char} (closed : closing? rest = some (inside, after)) :
    lexFrom line ('"' :: rest) = ⟨.string (String.ofList inside), line⟩ :: lexFrom line after := by
  rw [lexFrom]
  simp only [show ('"' == '\n') = false by decide, show isBlank '"' = false by decide,
    beq_self_eq_true, Bool.false_eq_true, ↓reduceIte]
  split
  · next found =>
    cases closed.symm.trans found
    rfl
  · next found => cases closed.symm.trans found

theorem lexFrom_strayQuote (open_ : closing? rest = none) :
    lexFrom line ('"' :: rest) = ⟨.strayQuote, line⟩ :: lexFrom line rest := by
  rw [lexFrom]
  simp only [show ('"' == '\n') = false by decide, show isBlank '"' = false by decide,
    beq_self_eq_true, Bool.false_eq_true, ↓reduceIte]
  split
  · next found => cases open_.symm.trans found
  · rfl

theorem lexFrom_mark (mark : Mark) :
    lexFrom line (mark.char :: rest) = ⟨.mark mark, line⟩ :: lexFrom line rest := by
  rw [lexFrom]
  simp only [beq_eq_false_iff_ne.2 mark.char_ne_newline, mark.isBlank_char,
    beq_eq_false_iff_ne.2 mark.char_ne_quote, mark.ofChar?_char, Bool.false_eq_true, ↓reduceIte]

/-- A word takes all word characters that follow. -/
theorem lexFrom_wordChar {c : Char} (inWord : isWordChar c = true) :
    lexFrom line (c :: rest) =
      ⟨.word (String.ofList (c :: rest.takeWhile isWordChar)), line⟩
        :: lexFrom line (rest.dropWhile isWordChar) := by
  have dark := isBlank_of_isWordChar inWord
  rw [lexFrom]
  simp only [beq_eq_false_iff_ne.2 (ne_newline_of_isBlank_eq_false dark), dark,
    beq_eq_false_iff_ne.2 (ne_quote_of_isWordChar inWord), ofChar?_of_isWordChar inWord,
    Bool.false_eq_true, ↓reduceIte]

theorem lexFrom_word {word : List Char} (nonempty : word ≠ [])
    (inWord : ∀ c ∈ word, isWordChar c = true) (stop : ∀ c ∈ rest.head?, isWordChar c = false) :
    lexFrom line (word ++ rest) = ⟨.word (String.ofList word), line⟩ :: lexFrom line rest := by
  rcases word with _ | ⟨c, word⟩
  · exact absurd rfl nonempty
  have tail : ∀ c ∈ word, isWordChar c = true := fun d member => inWord d (.tail c member)
  have noTake : rest.takeWhile isWordChar = [] := by
    cases rest with
    | nil => rfl
    | cons d rest => rw [List.takeWhile_cons, stop d rfl]; rfl
  have noDrop : rest.dropWhile isWordChar = rest := by
    cases rest with
    | nil => rfl
    | cons d rest => rw [List.dropWhile_cons, stop d rfl]; rfl
  rw [List.cons_append, lexFrom_wordChar (inWord c List.mem_cons_self),
    List.takeWhile_append_of_pos tail, List.dropWhile_append_of_pos tail, noTake, noDrop,
    List.append_nil]

theorem lexFrom_blanks {blanks : List Char} (blank : ∀ c ∈ blanks, isBlank c = true)
    (sameLine : '\n' ∉ blanks) : lexFrom line (blanks ++ rest) = lexFrom line rest := by
  induction blanks with
  | nil => rfl
  | cons c blanks ih =>
    have first : c ≠ '\n' := fun same => sameLine (same ▸ List.mem_cons_self)
    rw [List.cons_append, lexFrom_blank (blank c List.mem_cons_self) first]
    exact ih (fun d member => blank d (.tail c member)) fun member => sameLine (.tail c member)

end Front

/-! ## Closing a string -/

theorem closing?_newline (rest : List Char) : closing? ('\n' :: rest) = none := rfl

theorem closing?_quote {rest : List Char} (single : rest.head? ≠ some '"') :
    closing? ('"' :: rest) = some ([], rest) := by
  rw [closing?]
  rintro more rfl
  exact single rfl

theorem closing?_other {c : Char} {rest : List Char} (noQuote : c ≠ '"') (sameLine : c ≠ '\n') :
    closing? (c :: rest) = (closing? rest).map fun (inside, after) => (c :: inside, after) := by
  rw [closing?]
  · rw [if_neg (by simpa using sameLine)]
  · rintro more rfl
    exact absurd rfl noQuote
  · exact noQuote

/-- A closed string is what stands in front of its closing quote, on one line. -/
theorem eq_of_closing? {chars inside after : List Char}
    (closed : closing? chars = some (inside, after)) :
    chars = inside ++ '"' :: after ∧ '\n' ∉ inside := by
  fun_induction closing? chars generalizing inside after with
  | case1 => cases closed
  | case2 rest inner out found ih =>
    cases closed
    obtain ⟨same, sameLine⟩ := ih found
    refine ⟨by rw [same]; rfl, ?_⟩
    simp only [List.mem_cons, not_or]
    exact ⟨by decide, by decide, sameLine⟩
  | case3 rest missing =>
    cases closed
    exact ⟨rfl, List.not_mem_nil⟩
  | case4 rest single =>
    cases closed
    exact ⟨rfl, List.not_mem_nil⟩
  | case5 => cases closed
  | case6 c rest noDouble noQuote sameLine ih =>
    obtain ⟨⟨inner, out⟩, found, made⟩ := Option.map_eq_some_iff.1 closed
    cases made
    obtain ⟨same, innerLine⟩ := ih found
    refine ⟨by rw [same]; rfl, ?_⟩
    simp only [List.mem_cons, not_or]
    exact ⟨fun newline => sameLine (beq_iff_eq.2 newline.symm), innerLine⟩

/-! ## Runs of word characters -/

theorem isWordChar_of_mem_run {c : Char} (first : isWordChar c = true) (rest : List Char) :
    ∀ d ∈ c :: rest.takeWhile isWordChar, isWordChar d = true :=
  List.forall_mem_cons.2 ⟨first, fun d member => List.all_eq_true.1 (List.all_takeWhile ..) d member⟩

theorem not_isWordChar_after_run (rest : List Char) :
    ∀ d ∈ (rest.dropWhile isWordChar).head?, isWordChar d = false := by
  intro d member
  have head := List.head?_dropWhile_not isWordChar rest
  rw [Option.mem_def.1 member] at head
  simpa using head

/-! ## Cuts -/

/-- A text that ends whatever lexeme stands before it: it does not go on with a word, and no string
that is still open is closed in it before its line ends. -/
structure IsCut (tail : List Char) : Prop where
  noWord : ∀ c ∈ tail.head?, isWordChar c = false
  noString : closing? tail = none

theorem IsCut.head_ne_quote {tail : List Char} (cut : IsCut tail) : tail.head? ≠ some '"' := by
  intro quoted
  have noString := cut.noString
  rcases tail with _ | ⟨c, rest⟩
  · cases quoted
  cases quoted
  by_cases double : rest.head? = some '"'
  · rcases rest with _ | ⟨d, rest⟩
    · cases double
    cases double
    rw [closing?] at noString
    split at noString <;> cases noString
  · cases (closing?_quote double).symm.trans noString

theorem isCut_newline (rest : List Char) : IsCut ('\n' :: rest) where
  noWord := by
    rintro c ⟨⟩
    decide
  noString := closing?_newline rest

theorem isCut_mark (mark : Mark) : IsCut [mark.char] where
  noWord := by
    rintro c ⟨⟩
    exact mark.isWordChar_char
  noString := closing?_other mark.char_ne_quote mark.char_ne_newline

section Cut

variable {tail : List Char} (cut : IsCut tail)
include cut

/-- A string that is closed in front of a cut is closed where it would be without what follows. -/
theorem closing?_append (chars : List Char) :
    closing? (chars ++ tail) =
      (closing? chars).map fun (inside, after) => (inside, after ++ tail) := by
  fun_induction closing? chars with
  | case1 => exact cut.noString
  | case2 rest inner out found ih =>
    rw [found] at ih
    rw [List.cons_append, List.cons_append, closing?, ih]
    rfl
  | case3 rest missing ih =>
    rw [missing] at ih
    rw [List.cons_append, List.cons_append, closing?, ih]
    rfl
  | case4 rest single =>
    refine closing?_quote fun quoted => ?_
    cases rest with
    | nil => exact cut.head_ne_quote quoted
    | cons c rest =>
      cases quoted
      exact single rest rfl
  | case5 c rest _ _ newline =>
    rw [List.cons_append, beq_iff_eq.1 newline]
    rfl
  | case6 c rest noDouble noQuote sameLine ih =>
    rw [List.cons_append, closing?_other noQuote (by simpa using sameLine), ih]
    cases closing? rest <;> rfl

/-- The lexemes of a text in front of a cut are those it has without what follows. -/
theorem lexFrom_append (line : Nat) (chars : List Char) :
    lexFrom line (chars ++ tail) =
      lexFrom line chars ++ lexFrom (line + chars.count '\n') tail := by
  fun_induction lexFrom line chars with
  | case1 line => rfl
  | case2 line c rest newline ih =>
    obtain rfl := beq_iff_eq.1 newline
    rw [List.cons_append, lexFrom_newline, ih, List.count_cons_self, Nat.add_right_comm,
      Nat.add_assoc]
  | case3 line c rest sameLine blank ih =>
    have different : c ≠ '\n' := by simpa using sameLine
    rw [List.cons_append, lexFrom_blank blank different, ih, List.count_cons_of_ne different]
  | case4 line c rest _ _ quote inside after closed ih =>
    obtain rfl := beq_iff_eq.1 quote
    obtain ⟨same, sameLine⟩ := eq_of_closing? closed
    have closedToo : closing? (rest ++ tail) = some (inside, after ++ tail) := by
      rw [closing?_append cut, closed]
      rfl
    have counts : ('"' :: rest).count '\n' = after.count '\n' := by
      rw [same, List.count_cons_of_ne (by decide), List.count_append,
        List.count_eq_zero.2 sameLine, List.count_cons_of_ne (by decide), Nat.zero_add]
    rw [List.cons_append, lexFrom_string closedToo, ih, counts]
    rfl
  | case5 line c rest _ _ quote missing ih =>
    obtain rfl := beq_iff_eq.1 quote
    have missingToo : closing? (rest ++ tail) = none := by
      rw [closing?_append cut, missing]
      rfl
    rw [List.cons_append, lexFrom_strayQuote missingToo, ih, List.count_cons_of_ne (by decide)]
    rfl
  | case6 line c rest _ _ _ mark found ih =>
    obtain rfl := Mark.char_of_ofChar? found
    rw [List.cons_append, lexFrom_mark, ih, List.count_cons_of_ne mark.char_ne_newline]
    rfl
  | case7 line c rest sameLine dark noQuote noMark ih =>
    have inWord : isWordChar c = true := by
      simp_all [isWordChar]
    have word := isWordChar_of_mem_run inWord rest
    have noLines : (c :: rest.takeWhile isWordChar).count '\n' = 0 := by
      refine List.count_eq_zero.2 fun member => ?_
      cases isBlank_newline.symm.trans (isBlank_of_isWordChar (word _ member))
    have stop : ∀ d ∈ (rest.dropWhile isWordChar ++ tail).head?, isWordChar d = false := by
      intro d member
      cases left : rest.dropWhile isWordChar with
      | nil =>
        rw [left] at member
        exact cut.noWord d member
      | cons e more =>
        rw [left] at member
        exact not_isWordChar_after_run rest d (by rwa [left])
    have split : c :: rest = (c :: rest.takeWhile isWordChar) ++ rest.dropWhile isWordChar := by
      rw [List.cons_append, List.takeWhile_append_dropWhile]
    have counts : (c :: rest).count '\n' = (rest.dropWhile isWordChar).count '\n' := by
      rw [split, List.count_append, noLines, Nat.zero_add]
    rw [counts, split, List.append_assoc, lexFrom_word (List.cons_ne_nil _ _) word stop, ih]
    rfl

end Cut

/-! ## Lines -/

/-- The lexemes of lines of which the first has the given number. -/
def lexLines (line : Nat) : List String → List Lexeme
  | [] => []
  | text :: rest => lexFrom line text.toList ++ lexLines (line + 1) rest

theorem lexLines_append (line : Nat) (above below : List String) :
    lexLines line (above ++ below) = lexLines line above ++ lexLines (line + above.length) below := by
  induction above generalizing line with
  | nil => rfl
  | cons text rest ih =>
    rw [List.cons_append, lexLines, lexLines, ih, List.append_assoc, List.length_cons,
      Nat.add_right_comm, Nat.add_assoc]

/-- A text in front of lines is read by itself; it may have line feeds of its own. -/
theorem lexFrom_intercalate_cons (text next : String) (rest : List String) (line : Nat) :
    lexFrom line ("\n".intercalate (text :: next :: rest)).toList =
      lexFrom line text.toList
        ++ lexFrom (line + text.toList.count '\n' + 1) ("\n".intercalate (next :: rest)).toList := by
  rw [String.intercalate_cons_cons, String.toList_append, String.toList_append, List.append_assoc,
    show "\n".toList = ['\n'] from rfl, List.singleton_append, lexFrom_append (isCut_newline _),
    lexFrom_newline]

theorem lexFrom_intercalate {lines : List String} (single : ∀ text ∈ lines, '\n' ∉ text.toList)
    (line : Nat) : lexFrom line ("\n".intercalate lines).toList = lexLines line lines := by
  induction lines generalizing line with
  | nil => exact lexFrom_nil
  | cons text rest ih =>
    cases rest with
    | nil => rw [String.intercalate_singleton, lexLines, lexLines, List.append_nil]
    | cons next rest =>
      have counts : text.toList.count '\n' = 0 :=
        List.count_eq_zero.2 (single text List.mem_cons_self)
      rw [lexFrom_intercalate_cons, counts, lexLines, ih fun text member => single text (.tail _ member)]

/-! ## Words -/

/-- Whether a text is read as one word: it is not empty, and none of its characters is a blank, a quote
or a mark. -/
def IsWord (text : String) : Prop :=
  text ≠ "" ∧ ∀ c ∈ text.toList, isWordChar c = true

instance : DecidablePred IsWord :=
  fun text => inferInstanceAs (Decidable (text ≠ "" ∧ ∀ c ∈ text.toList, isWordChar c = true))

theorem IsWord.toList_ne_nil {text : String} (word : IsWord text) : text.toList ≠ [] := by
  intro empty
  exact word.1 (String.toList_eq_nil_iff.1 empty)

theorem IsWord.append {a b : String} (first : ∀ c ∈ a.toList, isWordChar c = true) (word : IsWord b) :
    IsWord (a ++ b) := by
  refine ⟨fun empty => word.1 ?_, fun c member => ?_⟩
  · have lists := congrArg String.toList empty
    rw [String.toList_append] at lists
    exact String.toList_eq_nil_iff.1 (List.append_eq_nil_iff.1 lists).2
  · rw [String.toList_append] at member
    exact (List.mem_append.1 member).elim (first c) (word.2 c)

theorem isWord_run {c : Char} (first : isWordChar c = true) (rest : List Char) :
    IsWord (String.ofList (c :: rest.takeWhile isWordChar)) := by
  refine ⟨by simp, ?_⟩
  rw [String.toList_ofList]
  exact isWordChar_of_mem_run first rest

theorem lexFrom_isWord {text : String} (word : IsWord text) (line : Nat) {rest : List Char}
    (stop : ∀ c ∈ rest.head?, isWordChar c = false) :
    lexFrom line (text.toList ++ rest) = ⟨.word text, line⟩ :: lexFrom line rest := by
  rw [lexFrom_word word.toList_ne_nil word.2 stop, String.ofList_toList]

theorem IsWord.newline_not_mem {text : String} (word : IsWord text) : '\n' ∉ text.toList := by
  intro member
  cases isBlank_newline.symm.trans (isBlank_of_isWordChar (word.2 _ member))

end Codebook.Definition
