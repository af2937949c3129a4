import Codebook.Expression.Matching
import Codebook.Expression.Reading
import Mathlib.Logic.Basic

/-!
# What an expression describes

A character of a class takes one place, a condition takes none, parts lead on one after the other, and a
repetition leads to what so many rounds lead to as it allows (`afterRounds_of_mem_repeated`). So a text that
meets the form of a list name is a letter with letters, digits and underscores behind it, and one that meets
the form of a market code is two capital letters; a line feed may follow in both, for the end of a line is
in front of it too.
-/

namespace Codebook

/-! ## Characters -/

theorem isUpper_iff {c : Char} : c.isUpper = true ↔ 65 ≤ c.toNat ∧ c.toNat ≤ 90 := by
  change decide ('A'.val ≤ c.val ∧ c.val ≤ 'Z'.val) = true ↔ _
  rw [decide_eq_true_eq, UInt32.le_iff_toNat_le, UInt32.le_iff_toNat_le]
  rfl

theorem isLower_iff {c : Char} : c.isLower = true ↔ 97 ≤ c.toNat ∧ c.toNat ≤ 122 := by
  change (decide ('a'.val ≤ c.val) && decide (c.val ≤ 'z'.val)) = true ↔ _
  rw [Bool.and_eq_true, decide_eq_true_eq, decide_eq_true_eq, UInt32.le_iff_toNat_le,
    UInt32.le_iff_toNat_le]
  rfl

theorem isDigit_iff {c : Char} : c.isDigit = true ↔ 48 ≤ c.toNat ∧ c.toNat ≤ 57 := by
  change (decide ('0'.val ≤ c.val) && decide (c.val ≤ '9'.val)) = true ↔ _
  rw [Bool.and_eq_true, decide_eq_true_eq, decide_eq_true_eq, UInt32.le_iff_toNat_le,
    UInt32.le_iff_toNat_le]
  rfl

theorem isAlpha_iff {c : Char} : c.isAlpha = true ↔ c.isUpper = true ∨ c.isLower = true := by
  change (c.isUpper || c.isLower) = true ↔ _
  rw [Bool.or_eq_true]

theorem isAlphanum_iff {c : Char} : c.isAlphanum = true ↔ c.isAlpha = true ∨ c.isDigit = true := by
  change (c.isAlpha || c.isDigit) = true ↔ _
  rw [Bool.or_eq_true]

theorem CharRange.holds_codes_exact {c : Char} {first last : Nat} :
    CharRange.holds .exact c (.codes first last) = true ↔ first ≤ c.toNat ∧ c.toNat ≤ last := by
  simp [CharRange.holds, CaseRule.small, CaseRule.kin, CaseRule.origins]

theorem CharRange.holds_code_exact {c : Char} {n : Nat} :
    CharRange.holds .exact c (.code n) = true ↔ c.toNat = n := by
  simp [CharRange.holds, CaseRule.small]

namespace Expression

variable {text : Array Char} {used : List Nat} {s s' : State}

/-! ## One part -/

theorem mem_oneChar_iff {holds : Char → Bool} :
    s' ∈ oneChar text s holds ↔
      ∃ c, text[s.place]? = some c ∧ holds c = true ∧ s' = { s with place := s.place + 1 } := by
  rw [oneChar]
  cases text[s.place]? with
  | none => simp
  | some c => cases holds c <;> simp

theorem mem_ways_among_iff {ranges : List CharRange} :
    s' ∈ ways text used s (.among ranges true .exact) ↔
      ∃ c, text[s.place]? = some c ∧ (∃ range ∈ ranges, range.holds .exact c = true) ∧
        s' = { s with place := s.place + 1 } := by
  rw [ways, mem_oneChar_iff]
  simp

theorem mem_ways_spot_iff {condition : Spot} :
    s' ∈ ways text used s (.spot condition) ↔ condition.holds text s.place = true ∧ s' = s := by
  rw [ways]
  cases condition.holds text s.place <;> simp

theorem lastLineEnd_holds_iff {place : Nat} :
    Spot.lastLineEnd.holds text place = true ↔
      place = text.size ∨ place + 1 = text.size ∧ text[place]? = some '\n' := by
  simp [Spot.holds]

/-! ## Parts one after the other -/

/-- The states to which parts lead one after the other. -/
inductive Leads (text : Array Char) (used : List Nat) : State → List Expression → State → Prop where
  | nil {s : State} : Leads text used s [] s
  | cons {s mid s' : State} {part : Expression} {rest : List Expression} :
    mid ∈ ways text used s part → Leads text used mid rest s' → Leads text used s (part :: rest) s'

theorem leads_of_mem_waysOfAll {states : List State} {parts : List Expression}
    (member : s' ∈ waysOfAll text used states parts) :
    ∃ s ∈ states, Leads text used s parts s' := by
  induction parts generalizing states with
  | nil =>
    rw [waysOfAll] at member
    exact ⟨s', member, .nil⟩
  | cons part rest ih =>
    rw [waysOfAll] at member
    obtain ⟨mid, between, onward⟩ := ih member
    obtain ⟨s, start, step⟩ := List.mem_flatMap.1 (List.mem_eraseDups.1 between)
    exact ⟨s, start, .cons step onward⟩

theorem leads_of_mem_sequence {parts : List Expression}
    (member : s' ∈ ways text used s (.sequence parts)) : Leads text used s parts s' := by
  rw [ways] at member
  obtain ⟨start, here, leads⟩ := leads_of_mem_waysOfAll member
  rwa [List.mem_singleton.1 here] at leads

/-! ## Repetitions -/

/-- The states that so many rounds lead to. -/
inductive AfterRounds (step : State → List State) (s : State) : Nat → State → Prop where
  | none : AfterRounds step s 0 s
  | one {n : Nat} {mid s' : State} :
    AfterRounds step s n mid → s' ∈ step mid → AfterRounds step s (n + 1) s'

section Rounds

variable {step : State → List State} {isReluctant : Bool} {least : Nat} {most : Option Nat}

/-- Whether a repetition may end after so many rounds. -/
def Allows (least : Nat) (most : Option Nat) (n : Nat) : Prop :=
  least ≤ n ∧ ∀ m ∈ most, n ≤ max least m

/-- The repetition may end in each of some states. -/
def Ending (step : State → List State) (s : State) (least : Nat) (most : Option Nat)
    (states : List State) : Prop :=
  ∀ s' ∈ states, ∃ n, Allows least most n ∧ AfterRounds step s n s'

/-- What is known at the beginning of a round: how many rounds led to it. Without a greatest number they
are counted only as far as they are needed. -/
structure Round.Counts (step : State → List State) (s : State) (least : Nat) (most : Option Nat)
    (n : Nat) (round : Round) : Prop where
  after : AfterRounds step s n round.state
  count : round.count = if most.isNone then min least n else n
  bounded : ∀ m ∈ most, n ≤ max least m

theorem Round.Counts.next {n : Nat} {round : Round} (counts : round.Counts step s least most n)
    (more : round.count < least ∨ most.any (· ≤ round.count) = false) {next : State}
    (member : next ∈ step round.state) (isIdle : Bool) :
    Round.Counts step s least most (n + 1)
      ⟨next, if most.isNone then min least (round.count + 1) else round.count + 1, isIdle⟩ := by
  have count := counts.count
  refine ⟨.one counts.after member, ?_, ?_⟩
  · cases most with
    | none => simp only [Option.isNone_none, if_true] at count ⊢; omega
    | some m => simp only [Option.isNone_some, Bool.false_eq_true, if_false] at count ⊢; omega
  · rintro m rfl
    simp only [Option.isNone_some, Bool.false_eq_true, if_false] at count
    simp only [Option.any_some, decide_eq_false_iff_not] at more
    have bounded := counts.bounded m rfl
    omega

theorem Round.Counts.allows {n : Nat} {round : Round} (counts : round.Counts step s least most n)
    (enough : least ≤ round.count) : Allows least most n := by
  refine ⟨?_, counts.bounded⟩
  have count := counts.count
  split at count <;> omega

/-- A repetition ends in states to which as many rounds lead as it allows. -/
theorem ending_rounds {fuel n : Nat} {round : Round} {found : Rounds}
    (counts : round.Counts step s least most n) (ending : Ending step s least most found.2) :
    Ending step s least most (rounds step isReluctant least most fuel round found).2 := by
  induction fuel generalizing n round found with
  | zero => exact ending
  | succ fuel ih =>
    rw [rounds]
    split
    · exact ending
    · have stop {states : List State} (enough : least ≤ round.count)
          (ending : Ending step s least most states) :
          Ending step s least most (round.state :: states) := by
        intro s' member
        rcases List.mem_cons.1 member with rfl | member
        · exact ⟨n, counts.allows enough, counts.after⟩
        · exact ending s' member
      have goOn {found : Rounds} (more : round.count < least ∨ most.any (· ≤ round.count) = false)
          (ending : Ending step s least most found.2) :
          Ending step s least most ((step round.state).foldl
            (fun found next =>
              rounds step isReluctant least most fuel
                ⟨next, if most.isNone then min least (round.count + 1) else round.count + 1,
                  least ≤ round.count && next.place == round.state.place⟩ found)
            found).2 :=
        List.foldlRecOn (motive := fun found : Rounds => Ending step s least most found.2) _ _ ending
          fun _ known _ member => ih (counts.next more member _) known
      dsimp only
      split
      · next few => exact goOn (.inl few) ending
      · next enough =>
        have enough := Nat.le_of_not_lt enough
        split
        · exact stop enough ending
        · next open_ =>
          simp only [Bool.or_eq_true, not_or, Bool.not_eq_true] at open_
          split
          · exact goOn (.inr open_.2) (stop enough ending)
          · exact stop enough (goOn (.inr open_.2) ending)

theorem afterRounds_of_mem_repeated {greed : Greed} (taken : greed ≠ .possessive) {part : Expression}
    (member : s' ∈ ways text used s (.repeated greed least most part)) :
    ∃ n, Allows least most n ∧ AfterRounds (fun s => ways text used s part) s n s' := by
  have ending (isReluctant : Bool) (fuel : Nat) :
      Ending (fun s => ways text used s part) s least most
        (rounds (fun s => ways text used s part) isReluctant least most fuel ⟨s, 0, false⟩ ([], [])).2 :=
    ending_rounds ⟨.none, by simp, by simp⟩ fun _ member => nomatch member
  cases greed with
  | possessive => exact absurd rfl taken
  | greedy =>
    rw [ways.eq_def] at member
    exact ending _ _ s' (List.mem_reverse.1 (List.mem_eraseDups.1 member))
  | reluctant =>
    rw [ways.eq_def] at member
    exact ending _ _ s' (List.mem_reverse.1 (List.mem_eraseDups.1 member))

end Rounds

/-! ## Words of a class -/

/-- Whether a character is of a class whose case counts. -/
def InClass (ranges : List CharRange) (c : Char) : Prop :=
  ∃ range ∈ ranges, range.holds .exact c = true

/-- Rounds of one character each go over characters of the class. -/
theorem place_of_afterRounds {ranges : List CharRange} {n : Nat}
    (rounds : AfterRounds (fun s => ways text used s (.among ranges true .exact)) s n s') :
    s'.place = s.place + n ∧ ∀ i < n, ∃ c, text[s.place + i]? = some c ∧ InClass ranges c := by
  induction rounds with
  | none => exact ⟨rfl, fun i short => absurd short (Nat.not_lt_zero i)⟩
  | one _ last ih =>
    obtain ⟨c, here, inClass, rfl⟩ := mem_ways_among_iff.1 last
    obtain ⟨place, before⟩ := ih
    refine ⟨by simp only [place]; omega, fun i short => ?_⟩
    rcases Nat.lt_succ_iff_lt_or_eq.1 short with short | rfl
    · exact before i short
    · exact ⟨c, place ▸ here, inClass⟩

theorem exists_ways_of_meets {e : Expression} {s : String} (meets : e.meets s = true) :
    ∃ place s', s' ∈ ways s.toList.toArray (asked e) ⟨place, []⟩ e := by
  rw [Expression.meets, List.any_eq_true] at meets
  obtain ⟨place, -, found⟩ := meets
  obtain ⟨s', member⟩ := List.exists_mem_of_ne_nil _ (by simpa using found)
  exact ⟨place, s', member⟩

/-- A text is a word of a kind, perhaps with a line feed behind it. -/
def IsLineOf (IsWord : List Char → Prop) (s : String) : Prop :=
  ∃ word, IsWord word ∧ (s.toList = word ∨ s.toList = word ++ ['\n'])

/-- A text is its characters before an end of the last line, perhaps with a line feed behind them. -/
theorem isLineOf_take {IsWord : List Char → Prop} {s : String} {place : Nat}
    (ends : Spot.lastLineEnd.holds s.toList.toArray place = true) (word : IsWord (s.toList.take place)) :
    IsLineOf IsWord s := by
  refine ⟨_, word, ?_⟩
  rcases lastLineEnd_holds_iff.1 ends with atEnd | ⟨before, here⟩
  · rw [atEnd]
    exact .inl (List.take_of_length_le (Nat.le_refl _)).symm
  · right
    rw [List.getElem?_toArray] at here
    have whole : s.toList.take (place + 1) = s.toList :=
      List.take_of_length_le (Nat.le_of_eq before.symm)
    rw [List.take_add_one, here] at whole
    exact whole.symm

theorem mem_take_iff {chars : List Char} {n : Nat} {c : Char} :
    c ∈ chars.take n ↔ ∃ i < n, chars[i]? = some c := by
  rw [List.mem_iff_getElem?]
  constructor
  · rintro ⟨i, here⟩
    rw [List.getElem?_take] at here
    split at here
    · next short => exact ⟨i, short, here⟩
    · cases here
  · rintro ⟨i, short, here⟩
    exact ⟨i, by rw [List.getElem?_take, if_pos short, here]⟩

/-! ## Names of lists -/

/-- The expression of list names. -/
def nameExpression : Expression :=
  .sequence
    [
      .spot .textStart, .among [.codes 65 90, .codes 97 122] true .exact,
      .repeated .greedy 0 none
        (.among [.codes 65 90, .codes 97 122, .codes 48 57, .code 95] true .exact),
      .spot .lastLineEnd
    ]

/-- Whether a reading gives the expression of list names. -/
def isNameReading : Except ExpressionFault Expression → Bool
  | .ok (.sequence
      [.spot .textStart, .among [.codes 65 90, .codes 97 122] true .exact,
        .repeated .greedy 0 none
          (.among [.codes 65 90, .codes 97 122, .codes 48 57, .code 95] true .exact),
        .spot .lastLineEnd]) => true
  | _ => false

theorem eq_of_isNameReading {reading : Except ExpressionFault Expression}
    (same : isNameReading reading = true) : reading = .ok nameExpression := by
  unfold isNameReading at same
  split at same
  · rfl
  · cases same

theorem ofText_name : ofText "^[A-Za-z][A-Za-z0-9_]*$" = .ok nameExpression :=
  eq_of_isNameReading (by decide +kernel)

theorem letter_of_inClass {c : Char} (inClass : InClass [.codes 65 90, .codes 97 122] c) :
    c.isAlpha = true := by
  rw [isAlpha_iff, isUpper_iff, isLower_iff]
  simpa [InClass, CharRange.holds_codes_exact] using inClass

theorem alphanum_of_inClass {c : Char}
    (inClass : InClass [.codes 65 90, .codes 97 122, .codes 48 57, .code 95] c) :
    c.isAlphanum = true ∨ c = '_' := by
  simp only [InClass, List.mem_cons, List.not_mem_nil, or_false, exists_eq_or_imp, exists_eq_left,
    CharRange.holds_codes_exact, CharRange.holds_code_exact] at inClass
  rw [isAlphanum_iff, isAlpha_iff, isUpper_iff, isLower_iff, isDigit_iff]
  rcases inClass with capital | small | digit | underscore
  · exact .inl (.inl (.inl capital))
  · exact .inl (.inl (.inr small))
  · exact .inl (.inr digit)
  · exact .inr (Char.toNat_inj.1 underscore)

/-- A letter, then letters, digits and underscores. -/
structure IsName (word : List Char) : Prop where
  first : ∃ c ∈ word.head?, c.isAlpha = true
  all : ∀ c ∈ word, c.isAlphanum = true ∨ c = '_'

theorem isLineOf_name {s : String} (meets : nameExpression.meets s = true) : IsLineOf IsName s := by
  obtain ⟨place, s', member⟩ := exists_ways_of_meets meets
  cases leads_of_mem_sequence member with
  | cons start leads =>
  obtain ⟨atStart, rfl⟩ := mem_ways_spot_iff.1 start
  cases leads with
  | cons first leads =>
  obtain ⟨c, here, letter, rfl⟩ := mem_ways_among_iff.1 first
  cases leads with
  | cons others leads =>
  obtain ⟨n, -, rounds⟩ := afterRounds_of_mem_repeated Greed.noConfusion others
  cases leads with
  | cons last leads =>
  obtain ⟨ends, rfl⟩ := mem_ways_spot_iff.1 last
  obtain ⟨atEnd, rest⟩ := place_of_afterRounds rounds
  obtain rfl : place = 0 := beq_iff_eq.1 atStart
  rw [List.getElem?_toArray] at here
  refine isLineOf_take ends ⟨⟨c, ?_, letter_of_inClass letter⟩, fun d member => ?_⟩
  · rw [atEnd, List.head?_take, List.head?_eq_getElem?, here]
    simp
  · obtain ⟨i, short, at_⟩ := mem_take_iff.1 member
    cases i with
    | zero =>
      obtain rfl : c = d := Option.some.inj (here.symm.trans at_)
      exact .inl (isAlphanum_iff.2 (.inl (letter_of_inClass letter)))
    | succ i =>
      obtain ⟨e, there, inClass⟩ := rest i (by simp only [atEnd] at short; omega)
      rw [List.getElem?_toArray, Nat.zero_add, Nat.add_comm] at there
      obtain rfl : e = d := Option.some.inj (there.symm.trans at_)
      exact alphanum_of_inClass inClass

/-! ## Codes of markets -/

/-- The expression of market codes. -/
def codeExpression : Expression :=
  .sequence
    [
      .spot .textStart, .repeated .greedy 2 (some 2) (.among [.codes 65 90] true .exact),
      .spot .lastLineEnd
    ]

/-- Whether a reading gives the expression of market codes. -/
def isCodeReading : Except ExpressionFault Expression → Bool
  | .ok (.sequence
      [.spot .textStart, .repeated .greedy 2 (some 2) (.among [.codes 65 90] true .exact),
        .spot .lastLineEnd]) => true
  | _ => false

theorem eq_of_isCodeReading {reading : Except ExpressionFault Expression}
    (same : isCodeReading reading = true) : reading = .ok codeExpression := by
  unfold isCodeReading at same
  split at same
  · rfl
  · cases same

theorem ofText_code : ofText "^[A-Z]\x7b2\x7d$" = .ok codeExpression :=
  eq_of_isCodeReading (by decide +kernel)

theorem capital_of_inClass {c : Char} (inClass : InClass [.codes 65 90] c) : c.isUpper = true := by
  rw [isUpper_iff]
  simpa [InClass, CharRange.holds_codes_exact] using inClass

/-- Two capital letters. -/
structure IsCode (word : List Char) : Prop where
  length : word.length = 2
  all : ∀ c ∈ word, c.isUpper = true

theorem isLineOf_code {s : String} (meets : codeExpression.meets s = true) : IsLineOf IsCode s := by
  obtain ⟨place, s', member⟩ := exists_ways_of_meets meets
  cases leads_of_mem_sequence member with
  | cons start leads =>
  obtain ⟨atStart, rfl⟩ := mem_ways_spot_iff.1 start
  cases leads with
  | cons capitals leads =>
  obtain ⟨n, ⟨least, most⟩, rounds⟩ := afterRounds_of_mem_repeated Greed.noConfusion capitals
  obtain rfl : n = 2 := Nat.le_antisymm (most 2 rfl) least
  cases leads with
  | cons last leads =>
  obtain ⟨ends, rfl⟩ := mem_ways_spot_iff.1 last
  obtain ⟨atEnd, two⟩ := place_of_afterRounds rounds
  obtain rfl : place = 0 := beq_iff_eq.1 atStart
  refine isLineOf_take ends ⟨?_, fun d member => ?_⟩
  · obtain ⟨c, here, -⟩ := two 1 (by omega)
    rw [List.getElem?_toArray] at here
    obtain ⟨long, -⟩ := List.getElem?_eq_some_iff.1 here
    rw [List.length_take, atEnd]
    simp only at long ⊢
    omega
  · obtain ⟨i, short, at_⟩ := mem_take_iff.1 member
    obtain ⟨c, here, inClass⟩ := two i (by simpa only [atEnd, Nat.zero_add] using short)
    rw [List.getElem?_toArray, Nat.zero_add] at here
    obtain rfl : c = d := Option.some.inj (here.symm.trans at_)
    exact capital_of_inClass inClass

end Expression

end Codebook
