import Codebook.Text.Case
import Codebook.Text.Quoted

/-!
# Expressions

An expression describes texts: characters, one after the other, repeated, or as alternatives, and
conditions on a place in a text. Parts of it may be numbered groups, and a later part may ask for the text
that a group took, or whether it took one.

An expression that is not well formed has a fault, most often at a place in its text.
-/

namespace Codebook

/-! ## Characters -/

/-- How case counts where characters are compared. -/
inductive CaseRule where
  | exact
  /-- The case of the letters from A to Z plays no part. -/
  | asciiFree
  /-- The case of no letter plays a part. -/
  | free
deriving Repr, DecidableEq

namespace CaseRule

/-- Whether a character has another form that is taken for the same. -/
def hasCase (rule : CaseRule) (c : Char) : Bool :=
  match rule with
  | exact => false
  | asciiFree => c.isAlpha
  | free => Text.hasCase c

end CaseRule

/-- The kinds of characters that have names. -/
inductive CharKind where
  | digit
  | blank
  | word
deriving Repr, DecidableEq

/-- A part of a class of characters. -/
inductive CharRange where
  | code (code : Nat)
  /-- The characters with codes between two codes. -/
  | codes (first last : Nat)
  /-- The characters that are of a kind, or are not; the kind may be limited to ASCII. -/
  | ofKind (kind : CharKind) (isAscii isMet : Bool)
deriving Repr, DecidableEq

/-! ## Expressions -/

/-- A condition on a place in a text. -/
inductive Spot where
  | textStart
  | lineStart
  /-- The end of the text, or before the line feed at its end. -/
  | lastLineEnd
  | lineEnd
  | textEnd
  /-- A place between a word character and something else, or any other place. -/
  | wordEdge (isAscii isMet : Bool)
deriving Repr, DecidableEq

/-- How much a repetition takes. -/
inductive Greed where
  /-- As much as the rest of the expression allows. -/
  | greedy
  /-- As little as the rest of the expression allows. -/
  | reluctant
  /-- As much as there is. -/
  | possessive
deriving Repr, DecidableEq

/-- A description of texts. -/
inductive Expression where
  /-- The character with a code, or any other one. -/
  | literal (code : Nat) (isMet : Bool) (rule : CaseRule)
  /-- A character of a class, or any other one. -/
  | among (ranges : List CharRange) (isMet : Bool) (rule : CaseRule)
  /-- Any character; a line feed may be left out. -/
  | any (withBreak : Bool)
  | spot (spot : Spot)
  | sequence (parts : List Expression)
  | choice (parts : List Expression)
  | repeated (greed : Greed) (least : Nat) (most : Option Nat) (part : Expression)
  | group (number : Nat) (part : Expression)
  /-- The text that a group took. -/
  | again (number : Nat) (rule : CaseRule)
  /-- One part if a group took a text, and another one if not. -/
  | conditional (number : Nat) (taken untaken : Expression)
  /-- A place from which the part can be reached, or cannot. -/
  | ahead (isMet : Bool) (part : Expression)
  /-- A place that the part leads to, or does not, from as many characters before it as the part takes,
  which are at least `least` and at most `most`. -/
  | behind (isMet : Bool) (least most : Nat) (part : Expression)
  /-- The part, of which only the first way to take it counts. -/
  | atomic (part : Expression)
deriving Repr

/-! ## Faults -/

/-- What is wrong with an expression at a place. -/
inductive ExpressionCause where
  | endingEscape
  | incompleteEscape (escape : String)
  | badEscape (escape : String)
  | octalEscape (escape : String)
  | missing (name : String)
  | unendingName (terminator : String)
  | unknownCharacter (name : String)
  | openGroup
  | groupInside
  | noGroup (number : Nat)
  | noGroupNumber
  | unknownGroup (name : String)
  | badGroupName (name : String)
  | repeatedGroup (name : String) (number earlier : Nat)
  | unendingSet
  | badRange (first last : String)
  | wrongCounts
  | nothingRepeated
  | repeatedTwice
  | unexpectedEnd
  | unknownExtension (text : String)
  | unendingComment
  | unendingPart
  | thirdBranch
  | lateFlags
  | localeFlag
  | clashingFlags
  | unknownFlag
  | globalFlagOn
  | globalFlagOff
  | kindFlagOff
  | flagOnAndOff
  | unbalanced
deriving Repr, DecidableEq

/-- Why an expression is not well formed. -/
inductive ExpressionFault where
  /-- Something is wrong at a place of the text. -/
  | misplaced (cause : ExpressionCause) (place : Nat) (text : String)
  /-- What is looked for behind a place takes now more, now fewer characters. -/
  | varyingWidth
  | tooFarBehind
  /-- A repetition stands where the flags forbid one. -/
  | forbidden (greed : Greed)
  | tooManyRepetitions
  | bothCharacterSets
  /-- An escape names a number that is no index at all. -/
  | beyondIndexes
deriving Repr, DecidableEq

namespace ExpressionCause

/-- The message of a cause. -/
def message : ExpressionCause → String
  | endingEscape => "bad escape (end of pattern)"
  | incompleteEscape escape => "incomplete escape " ++ escape
  | badEscape escape => "bad escape " ++ escape
  | octalEscape escape => "octal escape value " ++ escape ++ " outside of range 0-0o377"
  | missing name => "missing " ++ name
  | unendingName terminator => "missing " ++ terminator ++ ", unterminated name"
  | unknownCharacter name => "undefined character name " ++ Text.quoted name
  | openGroup => "cannot refer to an open group"
  | groupInside => "cannot refer to group defined in the same lookbehind subpattern"
  | noGroup number => "invalid group reference " ++ toString number
  | noGroupNumber => "bad group number"
  | unknownGroup name => "unknown group name " ++ Text.quoted name
  | badGroupName name => "bad character in group name " ++ Text.quoted name
  | repeatedGroup name number earlier =>
    "redefinition of group name " ++ Text.quoted name ++ " as group " ++ toString number
      ++ "; was group " ++ toString earlier
  | unendingSet => "unterminated character set"
  | badRange first last => "bad character range " ++ first ++ "-" ++ last
  | wrongCounts => "min repeat greater than max repeat"
  | nothingRepeated => "nothing to repeat"
  | repeatedTwice => "multiple repeat"
  | unexpectedEnd => "unexpected end of pattern"
  | unknownExtension text => "unknown extension " ++ text
  | unendingComment => "missing ), unterminated comment"
  | unendingPart => "missing ), unterminated subpattern"
  | thirdBranch => "conditional backref with more than two branches"
  | lateFlags => "global flags not at the start of the expression"
  | localeFlag => "bad inline flags: cannot use 'L' flag with a str pattern"
  | clashingFlags => "bad inline flags: flags 'a', 'u' and 'L' are incompatible"
  | unknownFlag => "unknown flag"
  | globalFlagOn => "bad inline flags: cannot turn on global flag"
  | globalFlagOff => "bad inline flags: cannot turn off global flag"
  | kindFlagOff => "bad inline flags: cannot turn off flags 'a', 'u' and 'L'"
  | flagOnAndOff => "bad inline flags: flag turned on and off"
  | unbalanced => "unbalanced parenthesis"

end ExpressionCause

namespace ExpressionFault

/-- The name of a repetition in messages. -/
def greedName : Greed → String
  | .greedy => "MAX_REPEAT"
  | .reluctant => "MIN_REPEAT"
  | .possessive => "POSSESSIVE_REPEAT"

/-- The message of a fault; in a text of several lines the place is also told by line and column. -/
def message : ExpressionFault → String
  | misplaced cause place text =>
    let before := text.toList.take place
    let line := before.count '\n' + 1
    let column := (before.reverse.takeWhile (· != '\n')).length + 1
    cause.message ++ " at position " ++ toString place
      ++ if text.toList.contains '\n' then
          " (line " ++ toString line ++ ", column " ++ toString column ++ ")"
        else ""
  | varyingWidth => "look-behind requires fixed-width pattern"
  | tooFarBehind => "looks too much behind"
  | forbidden greed => "internal: unsupported template operator " ++ greedName greed
  | tooManyRepetitions => "the repetition number is too large"
  | bothCharacterSets => "ASCII and UNICODE flags are incompatible"
  | beyondIndexes => "Python int too large to convert to C int"

/-- Whether the fault is one of the form of expressions. -/
def isMalformed : ExpressionFault → Bool
  | misplaced .. | varyingWidth | tooFarBehind | forbidden _ => true
  | tooManyRepetitions | bothCharacterSets | beyondIndexes => false

end ExpressionFault

end Codebook
