import Codebook.Proofs.Definition.Lexing

/-!
# The places of lexemes

The lexemes of a text stand in it from left to right, with nothing but blanks between them, and each of them
is as long as it can be: a word has no word character on either side, and a string is the longest one that
begins at its quote. Only the lexemes of a text cover it in this way (`covers_iff_lex`), so the blanks
between lexemes are all that is dropped, and what is read at a quote depends on nothing but what follows it.
-/

namespace Codebook.Definition

open Codebook.Text

/-! ## Strings -/

/-- Whether characters may stand between the outer quotes of a string: a quote is written twice, and there
is no line feed. -/
inductive IsInside : List Char → Prop
  | nil : IsInside []
  | char {c : Char} {rest : List Char} :
    c ≠ '"' → c ≠ '\n' → IsInside rest → IsInside (c :: rest)
  | double {rest : List Char} : IsInside rest → IsInside ('"' :: '"' :: rest)

/-- Whether characters are a string. -/
def IsString (written : List Char) : Prop :=
  ∃ inside, IsInside inside ∧ written = '"' :: (inside ++ ['"'])

/-- Whether characters are the longest string at the front of a text. -/
structure IsLongestString (written text : List Char) : Prop where
  isString : IsString written
  atFront : written <+: text
  longest : ∀ other, IsString other → other <+: text → other.length ≤ written.length

theorem IsLongestString.unique {a b text : List Char} (first : IsLongestString a text)
    (second : IsLongestString b text) : a = b := by
  have sameLength := Nat.le_antisymm (second.longest a first.isString first.atFront)
    (first.longest b second.isString second.atFront)
  exact (List.prefix_of_prefix_length_le first.atFront second.atFront sameLength.le).eq_of_length sameLength

theorem isInside_of_closing? {chars inside after : List Char}
    (closed : closing? chars = some (inside, after)) : IsInside inside := by
  fun_induction closing? chars generalizing inside after with
  | case1 => cases closed
  | case2 rest inner out found ih =>
    cases closed
    exact .double (ih found)
  | case3 rest missing =>
    cases closed
    exact .nil
  | case4 rest single =>
    cases closed
    exact .nil
  | case5 => cases closed
  | case6 c rest noDouble noQuote sameLine ih =>
    obtain ⟨⟨inner, out⟩, found, made⟩ := Option.map_eq_some_iff.1 closed
    cases made
    exact .char noQuote (by simpa using sameLine) (ih found)

/-- Where a string could end, one that is at least as long is found. -/
theorem exists_closing? {inside : List Char} (isInside : IsInside inside) (more : List Char) :
    ∃ found after, closing? (inside ++ '"' :: more) = some (found, after) ∧
      inside.length ≤ found.length := by
  induction isInside with
  | nil =>
    cases closed : closing? ('"' :: more) with
    | some pair => exact ⟨pair.1, pair.2, closed, Nat.zero_le _⟩
    | none =>
      rcases more with _ | ⟨c, more⟩
      · cases closed
      · by_cases quote : c = '"'
        · rw [quote, closing?] at closed
          split at closed <;> cases closed
        · rw [closing?_quote (by simpa using quote)] at closed
          cases closed
  | @char c _ noQuote sameLine _ ih =>
    obtain ⟨found, after, closed, length⟩ := ih
    refine ⟨c :: found, after, ?_, Nat.succ_le_succ length⟩
    rw [List.cons_append, closing?_other noQuote sameLine, closed]
    rfl
  | double _ ih =>
    obtain ⟨found, after, closed, length⟩ := ih
    refine ⟨'"' :: '"' :: found, after, ?_, Nat.succ_le_succ (Nat.succ_le_succ length)⟩
    rw [List.cons_append, List.cons_append, closing?, closed]

/-- A string at the front of a text is closed there. -/
theorem exists_closing?_of_isString {written rest : List Char} (isString : IsString written)
    (atFront : written <+: '"' :: rest) :
    ∃ found after, closing? rest = some (found, after) ∧ written.length ≤ found.length + 2 := by
  obtain ⟨inside, isInside, rfl⟩ := isString
  obtain ⟨more, split⟩ := atFront
  rw [List.cons_append, List.append_assoc, List.singleton_append] at split
  obtain ⟨found, after, closed, length⟩ := exists_closing? isInside more
  rw [(List.cons.inj split).2] at closed
  exact ⟨found, after, closed, by simpa using length⟩

theorem isLongestString_of_closing? {rest inside after : List Char}
    (closed : closing? rest = some (inside, after)) :
    IsLongestString ('"' :: (inside ++ ['"'])) ('"' :: rest) where
  isString := ⟨inside, isInside_of_closing? closed, rfl⟩
  atFront := ⟨after, by simp [(eq_of_closing? closed).1]⟩
  longest := by
    intro other isString atFront
    obtain ⟨found, out, closedToo, length⟩ := exists_closing?_of_isString isString atFront
    cases closed.symm.trans closedToo
    simpa using length

theorem closing?_eq_none_iff {rest : List Char} :
    closing? rest = none ↔ ∀ written, IsString written → ¬written <+: '"' :: rest := by
  constructor
  · intro missing written isString atFront
    obtain ⟨found, after, closed, -⟩ := exists_closing?_of_isString isString atFront
    cases missing.symm.trans closed
  · intro none
    cases closed : closing? rest with
    | none => rfl
    | some pair =>
      have longest := isLongestString_of_closing? closed
      exact absurd longest.atFront (none _ longest.isString)

/-! ## Places -/

/-- A lexeme with what is before it in a text and what comes after it. -/
structure Place where
  before : List Char
  lexeme : Lexeme
  after : List Char

/-- Whether a lexeme may stand between two parts of a text. -/
inductive Stands (before after : List Char) : Form → Prop
  | word {word : String} : IsWord word → (∀ c ∈ before.getLast?, isWordChar c = false) →
    (∀ c ∈ after.head?, isWordChar c = false) → Stands before after (.word word)
  | string {written : String} :
    IsLongestString ('"' :: (written.toList ++ ['"'])) ('"' :: (written.toList ++ '"' :: after)) →
    Stands before after (.string written)
  | mark (mark : Mark) : Stands before after (.mark mark)
  | strayQuote : (∀ written, IsString written → ¬written <+: '"' :: after) →
    Stands before after .strayQuote

namespace Place

/-- The characters of the lexeme of a place. -/
def text (p : Place) : List Char :=
  p.lexeme.text.toList

/-- Whether a lexeme stands where it may and has the number of the line on which it begins. -/
structure IsSound (p : Place) : Prop where
  line : p.lexeme.line = 1 + p.before.count '\n'
  stands : Stands p.before p.after p.lexeme.form

/-- Whether the place of a quote is inside the place of a lexeme and not at its front. -/
def Encloses (p : Place) (before : List Char) : Prop :=
  p.before.length < before.length ∧ before.length < p.before.length + p.text.length

end Place

/-- Places that cover what comes after a part of a text: they follow each other with nothing but blanks
between them, and every lexeme stands where it may. -/
inductive Covers : List Char → List Char → List Place → Prop
  | blanks {before rest : List Char} : (∀ c ∈ rest, isBlank c = true) → Covers before rest []
  | place {before gap : List Char} {p : Place} {more : List Place} :
    (∀ c ∈ gap, isBlank c = true) → p.before = before ++ gap → p.IsSound →
    Covers (p.before ++ p.text) p.after more → Covers before (gap ++ (p.text ++ p.after)) (p :: more)

/-! ## One lexeme -/

theorem IsInside.sameLine {inside : List Char} (isInside : IsInside inside) : '\n' ∉ inside := by
  induction isInside with
  | nil => exact List.not_mem_nil
  | char _ sameLine _ ih => exact fun member => (List.mem_cons.1 member).elim (sameLine ·.symm) ih
  | double _ ih => simpa using ih

theorem toList_text_string (written : String) (line : Nat) :
    (Lexeme.mk (.string written) line).text.toList = '"' :: (written.toList ++ ['"']) := by
  simp [Lexeme.text]

theorem toList_text_mark (mark : Mark) (line : Nat) :
    (Lexeme.mk (.mark mark) line).text.toList = [mark.char] :=
  String.toList_singleton mark.char

theorem toList_text_strayQuote (line : Nat) : (Lexeme.mk .strayQuote line).text.toList = ['"'] :=
  String.toList_singleton '"'

/-- A lexeme is on one line. -/
theorem Stands.newline_not_mem {before after : List Char} {form : Form} (stands : Stands before after form)
    (line : Nat) : '\n' ∉ (Lexeme.mk form line).text.toList := by
  cases stands with
  | word word _ _ => exact word.newline_not_mem
  | string longest =>
    obtain ⟨inside, isInside, same⟩ := longest.isString
    rw [toList_text_string, same]
    have := isInside.sameLine
    simp [this]
  | mark mark =>
    rw [toList_text_mark, List.mem_singleton]
    exact mark.char_ne_newline.symm
  | strayQuote =>
    rw [toList_text_strayQuote]
    decide

theorem head_not_word {chars rest : List Char} {word : String} (isWord : IsWord word) {c : Char}
    (same : word.toList ++ chars = c :: rest) : isWordChar c = true := by
  obtain ⟨d, more, split⟩ := List.exists_cons_of_ne_nil isWord.toList_ne_nil
  rw [split, List.cons_append] at same
  refine isWord.2 c ?_
  rw [split, (List.cons.inj same).1]
  exact List.mem_cons_self

/-- What comes after a lexeme begins on the line of the lexeme. -/
theorem Place.IsSound.line_after {p : Place} (sound : p.IsSound) :
    p.lexeme.line = 1 + (p.before ++ p.text).count '\n' := by
  have sameLine : p.text.count '\n' = 0 := List.count_eq_zero.2 (sound.stands.newline_not_mem _)
  rw [List.count_append, sameLine, Nat.add_zero, sound.line]

/-- A lexeme that stands where it may is the one that is read there. -/
theorem Place.IsSound.lexFrom {p : Place} (sound : p.IsSound) :
    lexFrom (1 + p.before.count '\n') (p.text ++ p.after) =
      p.lexeme :: Definition.lexFrom (1 + (p.before ++ p.text).count '\n') p.after := by
  rw [← sound.line, ← sound.line_after]
  obtain ⟨before, ⟨form, line⟩, after⟩ := p
  cases sound.stands with
  | word word _ stop => exact lexFrom_isWord word _ stop
  | @string written longest =>
    have closed : closing? (written.toList ++ '"' :: after) = some (written.toList, after) := by
      cases closed : closing? (written.toList ++ '"' :: after) with
      | none => exact absurd longest.atFront (closing?_eq_none_iff.1 closed _ longest.isString)
      | some pair =>
        have same := longest.unique (isLongestString_of_closing? closed)
        rw [List.cons.injEq, List.append_cancel_right_eq] at same
        have split := (eq_of_closing? closed).1
        rw [← same.2, List.append_cancel_left_eq, List.cons.injEq] at split
        rw [same.2, split.2]
    rw [Place.text, toList_text_string, List.cons_append, List.append_assoc, List.singleton_append,
      lexFrom_string closed, String.ofList_toList]
  | mark mark =>
    rw [Place.text, toList_text_mark]
    exact lexFrom_mark mark
  | strayQuote none =>
    rw [Place.text, toList_text_strayQuote]
    exact lexFrom_strayQuote (closing?_eq_none_iff.2 none)

/-- Whether no word goes on between two parts of a text. -/
def IsBoundary (before rest : List Char) : Prop :=
  (∀ c ∈ before.getLast?, isWordChar c = false) ∨ ∀ c ∈ rest.head?, isWordChar c = false

theorem isBoundary_of_last {before rest : List Char} {c : Char} (noWord : isWordChar c = false) :
    IsBoundary (before ++ [c]) rest :=
  .inl fun d member => by
    rw [List.getLast?_concat] at member
    cases member
    exact noWord

/-- No word goes on after a lexeme. -/
theorem Place.IsSound.isBoundary {p : Place} (sound : p.IsSound) :
    IsBoundary (p.before ++ p.text) p.after := by
  obtain ⟨before, ⟨form, line⟩, after⟩ := p
  cases sound.stands with
  | word _ _ stop => exact .inr stop
  | string _ =>
    rw [Place.text, toList_text_string, ← List.cons_append, ← List.append_assoc]
    exact isBoundary_of_last (by decide)
  | mark mark =>
    rw [Place.text, toList_text_mark]
    exact isBoundary_of_last mark.isWordChar_char
  | strayQuote _ =>
    rw [Place.text, toList_text_strayQuote]
    exact isBoundary_of_last (by decide)

/-! ## All lexemes -/

theorem lexFrom_gap {gap : List Char} (blank : ∀ c ∈ gap, isBlank c = true) (line : Nat)
    (rest : List Char) : lexFrom line (gap ++ rest) = lexFrom (line + gap.count '\n') rest := by
  induction gap generalizing line with
  | nil => rfl
  | cons c gap ih =>
    obtain ⟨first, others⟩ := List.forall_mem_cons.1 blank
    by_cases newline : c = '\n'
    · rw [newline, List.cons_append, lexFrom_newline, ih others, List.count_cons_self, Nat.add_right_comm,
        Nat.add_assoc]
    · rw [List.cons_append, lexFrom_blank first newline, ih others, List.count_cons_of_ne newline]

/-- Lexemes that cover what comes after a part of a text are those that are read there. -/
theorem Covers.lexFrom {before rest : List Char} {places : List Place} (covers : Covers before rest places) :
    lexFrom (1 + before.count '\n') rest = places.map Place.lexeme := by
  induction covers with
  | @blanks before rest blank =>
    rw [← List.append_nil rest, lexFrom_gap blank, lexFrom_nil]
    rfl
  | @place before gap p more blank follows sound _ ih =>
    rw [lexFrom_gap blank, Nat.add_assoc, ← List.count_append, ← follows, sound.lexFrom, ih]
    rfl

theorem Covers.cons_blank {before rest : List Char} {places : List Place} {c : Char}
    (covers : Covers (before ++ [c]) rest places) (blank : isBlank c = true) :
    Covers before (c :: rest) places := by
  cases covers with
  | blanks others => exact .blanks (List.forall_mem_cons.2 ⟨blank, others⟩)
  | @place _ gap p more others follows sound covers =>
    rw [List.append_assoc, List.singleton_append] at follows
    exact .place (List.forall_mem_cons.2 ⟨blank, others⟩) follows sound covers


/-- A lexeme of which the rest is covered covers what it is at the front of. -/
theorem exists_covers_cons {p : Place} {lexemes : List Lexeme} (sound : p.IsSound)
    (covered : ∃ places, Covers (p.before ++ p.text) p.after places ∧ places.map Place.lexeme = lexemes) :
    ∃ places, Covers p.before (p.text ++ p.after) places ∧ places.map Place.lexeme = p.lexeme :: lexemes := by
  obtain ⟨places, covers, rfl⟩ := covered
  have covers : Covers p.before ([] ++ (p.text ++ p.after)) (p :: places) :=
    .place nofun (List.append_nil _).symm sound covers
  exact ⟨p :: places, covers, rfl⟩

/-- What is read after a part of a text covers what comes after it, if no word goes on there. -/
theorem exists_covers {before : List Char} {line : Nat} (chars : List Char)
    (counted : line = 1 + before.count '\n') (boundary : IsBoundary before chars) :
    ∃ places, Covers before chars places ∧ places.map Place.lexeme = lexFrom line chars := by
  -- the part before grows by what each step reads, and the next lexeme begins after a character of no word
  fun_induction lexFrom line chars generalizing before with
  | case1 => exact ⟨[], .blanks (List.forall_mem_nil _), rfl⟩
  | case2 line c rest newline ih =>
    obtain rfl := beq_iff_eq.1 newline
    have next : line + 1 = 1 + (before ++ ['\n']).count '\n' := by
      rw [List.count_append, List.count_singleton_self, counted, Nat.add_assoc]
    obtain ⟨places, covers, same⟩ := ih next (isBoundary_of_last (by decide))
    exact ⟨places, covers.cons_blank isBlank_newline, same⟩
  | case3 line c rest sameLine blank ih =>
    have noWord : isWordChar c = false := by simp [isWordChar, blank]
    have next : line = 1 + (before ++ [c]).count '\n' := by
      rw [List.count_append, List.count_singleton, if_neg sameLine, counted]
      rfl
    obtain ⟨places, covers, same⟩ := ih next (isBoundary_of_last noWord)
    exact ⟨places, covers.cons_blank blank, same⟩
  | case4 line c rest sameLine dark quote inside after closed ih =>
    obtain rfl := beq_iff_eq.1 quote
    have split := (eq_of_closing? closed).1
    let p : Place := ⟨before, ⟨.string (String.ofList inside), line⟩, after⟩
    have text : p.text = '"' :: (inside ++ ['"']) := by
      rw [Place.text, toList_text_string, String.toList_ofList]
    have sound : p.IsSound := by
      refine ⟨counted, .string ?_⟩
      rw [String.toList_ofList, ← split]
      exact isLongestString_of_closing? closed
    have chars : '"' :: rest = p.text ++ p.after := by
      rw [text, split, List.cons_append, List.append_assoc, List.singleton_append]
    rw [chars]
    exact exists_covers_cons sound (ih sound.line_after sound.isBoundary)
  | case5 line c rest sameLine dark quote missing ih =>
    obtain rfl := beq_iff_eq.1 quote
    let p : Place := ⟨before, ⟨.strayQuote, line⟩, rest⟩
    have text : p.text = ['"'] := toList_text_strayQuote line
    have sound : p.IsSound := ⟨counted, .strayQuote (closing?_eq_none_iff.1 missing)⟩
    have chars : '"' :: rest = p.text ++ p.after := by rw [text, List.singleton_append]
    rw [chars]
    exact exists_covers_cons sound (ih sound.line_after sound.isBoundary)
  | case6 line c rest sameLine dark noQuote mark found ih =>
    obtain rfl := Mark.char_of_ofChar? found
    let p : Place := ⟨before, ⟨.mark mark, line⟩, rest⟩
    have text : p.text = [mark.char] := toList_text_mark mark line
    have sound : p.IsSound := ⟨counted, .mark mark⟩
    have chars : mark.char :: rest = p.text ++ p.after := by rw [text, List.singleton_append]
    rw [chars]
    exact exists_covers_cons sound (ih sound.line_after sound.isBoundary)
  | case7 line c rest sameLine dark noQuote noMark ih =>
    have inWord : isWordChar c = true := by simp_all [isWordChar]
    let p : Place :=
      ⟨before, ⟨.word (String.ofList (c :: rest.takeWhile isWordChar)), line⟩, rest.dropWhile isWordChar⟩
    have text : p.text = c :: rest.takeWhile isWordChar := String.toList_ofList
    have stop : ∀ d ∈ p.after.head?, isWordChar d = false := not_isWordChar_after_run rest
    have isWord := isWord_run inWord rest
    have start : ∀ d ∈ before.getLast?, isWordChar d = false :=
      boundary.resolve_right fun none => by cases (none c rfl).symm.trans inWord
    have sound : p.IsSound := ⟨counted, .word isWord start stop⟩
    have chars : c :: rest = p.text ++ p.after := by
      rw [text, List.cons_append, List.takeWhile_append_dropWhile]
    rw [chars]
    exact exists_covers_cons sound (ih sound.line_after sound.isBoundary)

/-! ## What is covered -/

/-- The characters of a text that are no blanks. -/
def dark (chars : List Char) : List Char :=
  chars.filter fun c => !isBlank c

theorem dark_eq_nil {chars : List Char} (blank : ∀ c ∈ chars, isBlank c = true) : dark chars = [] := by
  rw [dark, List.filter_eq_nil_iff]
  intro c member
  simp [blank c member]

theorem Covers.dark {before rest : List Char} {places : List Place} (covers : Covers before rest places) :
    dark rest = Definition.dark (places.flatMap Place.text) := by
  induction covers with
  | blanks blank => exact dark_eq_nil blank
  | @place before gap p more blank _ _ _ ih =>
    have skipped := dark_eq_nil blank
    simp only [Definition.dark, List.filter_append, List.flatMap_cons] at skipped ih ⊢
    rw [skipped, ih, List.nil_append]

/-- What stands at a quote: the longest string there, or the quote by itself if there is no string. -/
structure ReadsQuote (form : Form) (text : List Char) : Prop where
  string : ∀ written : String,
    form = .string written ↔ IsLongestString ('"' :: (written.toList ++ ['"'])) text
  strayQuote : form = .strayQuote ↔ ∀ written, IsString written → ¬written <+: text

theorem Stands.readsQuote {before rest after : List Char} {form : Form} {line : Nat}
    (stands : Stands before rest form)
    (quote : (Lexeme.mk form line).text.toList ++ rest = '"' :: after) : ReadsQuote form ('"' :: after) := by
  cases stands with
  | word word _ _ => cases (head_not_word word quote).symm.trans (by decide : isWordChar '"' = false)
  | mark mark =>
    rw [toList_text_mark] at quote
    exact absurd (List.cons.inj quote).1 mark.char_ne_quote
  | @string written longest =>
    rw [toList_text_string, List.cons_append, List.append_assoc, List.singleton_append] at quote
    rw [quote] at longest
    refine ⟨fun other => ⟨?_, fun otherLongest => ?_⟩, nofun, fun none => ?_⟩
    · rintro ⟨⟩
      exact longest
    · have same := longest.unique otherLongest
      rw [List.cons.injEq, List.append_cancel_right_eq] at same
      rw [String.toList_inj.1 same.2]
    · exact absurd longest.atFront (none _ longest.isString)
  | strayQuote none =>
    rw [toList_text_strayQuote, List.singleton_append] at quote
    rw [quote] at none
    exact ⟨fun other => ⟨nofun, fun longest => absurd longest.atFront (none _ longest.isString)⟩,
      fun _ => none, fun _ => rfl⟩

/-- There is no quote among blanks. -/
theorem not_blank_of_quote {start gap rest before after : List Char}
    (blank : ∀ c ∈ gap, isBlank c = true) (split : start ++ (gap ++ rest) = before ++ '"' :: after)
    (notBefore : start.length ≤ before.length) : start.length + gap.length ≤ before.length := by
  by_contra within
  obtain ⟨passed, rfl⟩ : start <+: before :=
    List.prefix_of_prefix_length_le ⟨_, split⟩ (List.prefix_append before _) notBefore
  rw [List.append_assoc, List.append_cancel_left_eq] at split
  rw [List.length_append] at within
  have inGap : passed ++ ['"'] <+: gap :=
    List.prefix_of_prefix_length_le ⟨after, by simp⟩ ⟨rest, split⟩ (by simp; omega)
  have quote := blank '"' (inGap.subset (by simp))
  cases quote.symm.trans (by decide : isBlank '"' = false)

/-- A quote is inside the place of a lexeme, or a lexeme begins there. -/
theorem Covers.quote {start rest : List Char} {places : List Place} (covers : Covers start rest places)
    {before after : List Char} (split : start ++ rest = before ++ '"' :: after)
    (notBefore : start.length ≤ before.length) :
    (∃ p ∈ places, p.Encloses before) ∨
      ∃ p ∈ places, p.before = before ∧ ReadsQuote p.lexeme.form ('"' :: after) := by
  induction covers with
  | @blanks start rest blank =>
    rw [← List.append_nil rest] at split
    have passed := not_blank_of_quote blank split notBefore
    have lengths := congrArg List.length split
    simp only [List.length_append, List.length_cons, List.length_nil] at lengths
    omega
  | @place start gap p more blank follows sound _ ih =>
    have passed := not_blank_of_quote blank split notBefore
    rw [← List.length_append, ← follows] at passed
    rw [← List.append_assoc, ← follows] at split
    by_cases reached : p.before.length + p.text.length ≤ before.length
    · rw [← List.append_assoc] at split
      rw [← List.length_append] at reached
      rcases ih split reached with ⟨q, member, encloses⟩ | ⟨q, member, begins⟩
      · exact .inl ⟨q, .tail p member, encloses⟩
      · exact .inr ⟨q, .tail p member, begins⟩
    · rcases passed.lt_or_eq with inside | here
      · exact .inl ⟨p, List.mem_cons_self, inside, Nat.lt_of_not_le reached⟩
      · obtain ⟨same, quote⟩ := List.append_inj split here
        exact .inr ⟨p, List.mem_cons_self, same, sound.stands.readsQuote quote⟩

/-- The lexemes of a text, and no others, cover it from left to right, each of them as long as it can be and
with the number of its line. Of the characters that are no blanks, none is lost and none is read twice. A
quote that is not inside a lexeme begins the longest string there, and is by itself if there is none. -/
theorem covers_iff_lex (text : String) :
    (∀ lexemes, (∃ places, Covers [] text.toList places ∧ places.map Place.lexeme = lexemes) ↔
      lexemes = lex text) ∧
    dark text.toList = dark ((lex text).flatMap fun l => l.text.toList) ∧
    ∀ places, Covers [] text.toList places → ∀ before after, text.toList = before ++ '"' :: after →
      (∃ p ∈ places, p.Encloses before) ∨
        ∃ p ∈ places, p.before = before ∧ ReadsQuote p.lexeme.form ('"' :: after) := by
  have covered : ∃ places, Covers [] text.toList places ∧ places.map Place.lexeme = lex text :=
    exists_covers text.toList rfl (.inl nofun)
  refine ⟨fun lexemes => ⟨?_, ?_⟩, ?_, fun places covers before after split => ?_⟩
  · rintro ⟨places, covers, rfl⟩
    exact covers.lexFrom.symm
  · rintro rfl
    exact covered
  · obtain ⟨places, covers, same⟩ := covered
    rw [covers.dark, ← same, List.flatMap_map]
    rfl
  · exact covers.quote split (Nat.zero_le _)

end Codebook.Definition
