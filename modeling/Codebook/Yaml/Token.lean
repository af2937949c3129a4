import Codebook.Text.Numeral
import Codebook.Document.Moment

/-!
# Tokens

The tokens that a text is made of: the marks of documents and collections, and names, tags and scalars.
The beginnings and ends of collections in block style have tokens of their own, though no character of
the text stands for them. An error is malformed text or a fault of a single value.
-/

namespace Codebook.Yaml

/-! ## Errors -/

/-- What is wrong with a single value of a well-formed text. -/
inductive Fault where
  /-- An escape names a number beyond the last character. -/
  | beyondCharacters
  /-- An escape names a number that is no index at all. -/
  | beyondIndexes
  /-- A whole number is not one. -/
  | numeral (cause : Text.NumeralError)
  /-- A number with a fraction is not one. -/
  | notReal (text : String)
  /-- A number has no characters. -/
  | noDigits
  /-- A truth value is none of the words for one; the word is in lower case. -/
  | notTruth (word : String)
  /-- A day or moment has another form. -/
  | notMoment
  /-- A day or moment is not in the calendar. -/
  | calendar (cause : CalendarError)
deriving Repr, DecidableEq

namespace Fault

/-- The message of a fault. -/
def message : Fault → String
  | beyondCharacters => "chr() arg not in range(0x110000)"
  | beyondIndexes => "Python int too large to convert to C int"
  | numeral cause => cause.message
  | notReal text => "could not convert string to float: " ++ Text.quoted text
  | noDigits => "string index out of range"
  | notTruth word => Text.quoted word
  | notMoment => "'NoneType' object has no attribute 'groupdict'"
  | calendar cause => cause.message

end Fault

/-- Why a text is not read. -/
inductive Error where
  | malformed
  | fault (cause : Fault)
deriving Repr, DecidableEq

/-! ## Tokens -/

/-- An order to the reader at the top of a document. -/
inductive Directive where
  | version (major : Nat)
  | handle (name replacement : String)
  /-- An order of a name without a meaning. -/
  | other
deriving Repr, DecidableEq

/-- A token. -/
inductive Token where
  | directive (directive : Directive)
  | documentStart
  | documentEnd
  | streamEnd
  | blockSequenceStart
  | blockMappingStart
  | blockEnd
  | flowSequenceStart
  | flowSequenceEnd
  | flowMappingStart
  | flowMappingEnd
  | blockEntry
  | flowEntry
  | key
  | value
  | anchor (name : String)
  | reference (name : String)
  | tag (handle : Option String) (suffix : String)
  | scalar (text : String) (isPlain : Bool)
  /-- The place from which on the text cannot be read for a fault of a value. -/
  | broken (fault : Fault)
deriving Repr, DecidableEq

end Codebook.Yaml
