import Codebook.Proofs.ImportRow.Reading

/-!
# Strict readings

A strict reading of a text comes to the same as a lenient one where the lenient one sets nothing aside, and
fails with the first fragment that is set aside where there is one (`strict_of_lenient`). Both readings
meet the same fragments in the same order: those of the tokens, and after them the items that claim the code
of the open answer, if the text has to end up with that.
-/

namespace Codebook.ImportRow

open Definition

/-- The fragment of an item that has the code of the open answer without its text. -/
def claimOf? : Token → Option Fragment
  | .item code label line _ =>
    if code == openAnswerCode && !readsAsOpenAnswer label then
      some ⟨line,
        openAnswerName ++ " \"" ++ label ++ "\" uses the reserved \"" ++ openAnswerLabel ++ "\" code"⟩
    else none
  | _ => none

/-- The items that claim the code of the open answer, in the order of the tokens. -/
theorem claims_eq_filterMap (alcoholic : List String) (tokens : List Token) :
    claims alcoholic tokens = tokens.filterMap claimOf? := by
  induction tokens with
  | nil => rfl
  | cons token rest ih =>
    cases token with
    | item code label line properties =>
      have claim := item_claimsOpenAnswerCode code label properties
      rw [claims, found_item, List.filter_cons, List.filterMap_cons, claimOf?, ← ih, claims]
      simp only [claim]
      split
      · next claimed =>
        have reserved : code = openAnswerCode := by
          rw [Bool.and_eq_true, beq_iff_eq] at claimed
          exact claimed.1
        rw [List.map_cons, claimOf, item_objectName, item_text, reserved]
        rfl
      · rfl
    | _ => exact ih

/-- A reading is strict or lenient only towards the fragments: where there are none it makes no
difference. -/
theorem ofTokens_of_fragmentsOf_eq_nil {reading : Reading} {tokens : List Token}
    (none : fragmentsOf reading tokens = []) (strict : Bool) :
    ofTokens { reading with strict := strict } tokens = ofTokens reading tokens := by
  have unreadable : tokens.filterMap fragmentOf? = [] := (List.append_eq_nil_iff.1 none).1
  rw [ofTokens, ofTokens, unreadable]
  split
  · next completes =>
    have completed : reading.completes tokens = true := completes
    have claimed : claims reading.alcoholic tokens = [] := by
      have second := (List.append_eq_nil_iff.1 none).2
      rwa [if_pos completed] at second
    rw [claims, found] at claimed
    simp only [List.partition_eq_filter_filter]
    rw [claimed]
    rfl
  · rfl

/-- Where a lenient reading succeeds, a strict one is the same if nothing is set aside, and fails with the
first fragment otherwise; what is set aside are the fragments of the tokens and after them the claims. -/
theorem strict_of_lenient {alcoholic : List String} {completed : Option Bool} {text : String}
    {parsed : Parsed} (ok : (parse ⟨alcoholic, false, completed⟩ text).outcome = .ok parsed) :
    (parsed.malformed = [] →
      parse ⟨alcoholic, true, completed⟩ text = parse ⟨alcoholic, false, completed⟩ text) ∧
    (∀ first rest, parsed.malformed = first :: rest →
      (parse ⟨alcoholic, true, completed⟩ text).outcome =
        .error (.malformedFragment first.line first.text)) ∧
    parsed.malformed =
      (tokenize text).filterMap fragmentOf?
        ++ if completed.getD ((tokenize text).any isHeaderToken) then (tokenize text).filterMap claimOf?
          else [] := by
  obtain ⟨_, _, rfl⟩ := ofTokens_eq_ok_iff.1 ok
  have sameFragments : fragmentsOf ⟨alcoholic, true, completed⟩ (tokenize text) =
      fragmentsOf ⟨alcoholic, false, completed⟩ (tokenize text) := rfl
  refine ⟨fun none => ofTokens_of_fragmentsOf_eq_nil none true, fun first rest some => ?_, ?_⟩
  · have stopped : fragmentsOf ⟨alcoholic, true, completed⟩ (tokenize text) = first :: rest :=
      sameFragments.trans some
    rw [parse, outcome_ofTokens, stopped, outcome_setAside]
    rfl
  · show fragmentsOf ⟨alcoholic, false, completed⟩ (tokenize text) = _
    rw [fragmentsOf, claims_eq_filterMap]
    rfl

/-- A text with an item that cannot be read, below one that claims the code of the open answer. -/
def flawed : String :=
  "_1100 \"Beer\" \x7b\n_1099 \"Draught\",\n_1101 Lager\n\x7d"

/-- A strict reading stops at the item that cannot be read; without headers the claim is none. -/
theorem strict_of_lenient_flawed :
    (∃ parsed, (parse ⟨[], false, none⟩ flawed).outcome = .ok parsed ∧
      parsed.malformed =
        [⟨3, "_1101 Lager"⟩, ⟨2, "_1099 \"Draught\" uses the reserved \"Other (specify)\" code"⟩]) ∧
      (parse ⟨[], true, none⟩ flawed).outcome = .error (.malformedFragment 3 "_1101 Lager") ∧
      (parse ⟨[], false, none⟩ "_1099 \"Draught\"").outcome.toOption.isSome = true ∧
      parse ⟨[], true, none⟩ "_1099 \"Draught\"" = parse ⟨[], false, none⟩ "_1099 \"Draught\"" := by
  have lenient : (parse ⟨[], false, none⟩ flawed).outcome =
      .ok ⟨placed (unplaced ⟨[], false, none⟩ (tokenize flawed)),
        fragmentsOf ⟨[], false, none⟩ (tokenize flawed)⟩ :=
    ofTokens_eq_ok_iff.2 ⟨nofun, by decide +kernel, rfl⟩
  have fragments : fragmentsOf ⟨[], false, none⟩ (tokenize flawed) =
      [⟨3, "_1101 Lager"⟩, ⟨2, "_1099 \"Draught\" uses the reserved \"Other (specify)\" code"⟩] := by
    decide +kernel
  have plain : (parse ⟨[], false, none⟩ "_1099 \"Draught\"").outcome =
      .ok ⟨placed (unplaced ⟨[], false, none⟩ (tokenize "_1099 \"Draught\"")),
        fragmentsOf ⟨[], false, none⟩ (tokenize "_1099 \"Draught\"")⟩ :=
    ofTokens_eq_ok_iff.2 ⟨nofun, by decide +kernel, rfl⟩
  exact ⟨⟨_, lenient, fragments⟩, (strict_of_lenient lenient).2.1 _ _ fragments, by rw [plain]; rfl,
    (strict_of_lenient plain).1 (by decide +kernel)⟩

end Codebook.ImportRow
