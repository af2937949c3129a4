import Codebook.Text.CaseTable
import Codebook.Text.Digit
import Codebook.Text.LetterTable

/-!
# Words

The characters that words are made of, letters and numbers of every script and the underscore, and the
words that can be names: those that begin with a letter or an underscore.
-/

namespace Codebook.Text

open CaseTable LetterTable

/-- Whether a character is a letter. -/
def isLetter (c : Char) : Bool :=
  if c.toNat < 0x80 then c.isAlpha else within letters c.toNat

/-- Whether a character is a letter or a number. -/
def isLetterOrNumber (c : Char) : Bool :=
  if c.toNat < 0x80 then c.isAlphanum
  else
    within letters c.toNat || isDecimal c || within letterNumbers c.toNat || within otherNumbers c.toNat

/-- Whether a character may be part of a word. -/
def isWordChar (c : Char) : Bool :=
  isLetterOrNumber c || c == '_'

/-- Whether a name may begin with a character. -/
def beginsName (c : Char) : Bool :=
  isLetter c || c == '_' || within letterNumbers c.toNat

/-- Whether a name may go on with a character. -/
def continuesName (c : Char) : Bool :=
  beginsName c || isDecimal c || within joiners c.toNat

/-- Whether characters make up a name. -/
def isName : List Char → Bool
  | [] => false
  | c :: rest => beginsName c && rest.all continuesName

end Codebook.Text
