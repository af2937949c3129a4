import Codebook.Text.Blank
import Codebook.Text.Case
import Codebook.Text.Numeral

/-!
# Taxonomies

A taxonomy has two levels: groups with a header, and the categories in them. Categories under the
header 1000 are local ones; they are kept apart, and the open answer "Other (specify)" with the code
1099 is always the last of them, so it is not held here.
-/

namespace Codebook

/-! ## Reserved codes -/

/-- The code of the local header. -/
def localCode : String := "1000"

/-- The label of the local header. -/
def localLabel : String := "Local, traditional or other type of drink"

/-- The code of the open answer. -/
def openAnswerCode : String := "1099"

/-- The label of the open answer. -/
def openAnswerLabel : String := "Other (specify)"

/-- Whether a text reads as the label of the open answer, in any case and with blanks around it. -/
def readsAsOpenAnswer (text : String) : Bool :=
  Text.lower (Text.trim text) == Text.lower openAnswerLabel

/-! ## Categories and groups -/

/-- Where a category is kept. -/
inductive Bucket where
  | normal
  | ofLocal
deriving Repr, DecidableEq

namespace Bucket

/-- The written form of a bucket. -/
def name : Bucket → String
  | normal => "normal"
  | ofLocal => "local"

end Bucket

/-- A category of the taxonomy. -/
structure Category where
  code : String
  label : String
  /-- The code of its header; a category may come without one. -/
  header : Option String
  /-- The codes of the containers that it is sold in. -/
  containers : List String
deriving Repr, DecidableEq

namespace Category

/-- The bucket of a category. -/
def bucket (c : Category) : Bucket :=
  if c.header == some localCode then .ofLocal else .normal

end Category

/-- A header and the categories under it. -/
structure Group where
  code : String
  label : String
  children : List Category
deriving Repr, DecidableEq

/-- Where a group stands among the others: those with a number as code come first, in the order of
the numbers, then the others in the order of their codes. -/
inductive GroupKey where
  | number (n : Nat)
  | text (code : String)
deriving Repr, DecidableEq

namespace GroupKey

/-- Whether a key comes before another one or is equal to it. -/
def le : GroupKey → GroupKey → Bool
  | number m, number n => m ≤ n
  | number _, text _ => true
  | text _, number _ => false
  | text a, text b => !(b < a)

end GroupKey

namespace Group

/-- The key of the group with a code. -/
def key (code : String) : Except Text.NumeralError GroupKey :=
  if Text.isAllDigits code then (Text.readNumeral code).map .number else .ok (.text code)

end Group

/-- The two-level list of categories. -/
structure Taxonomy where
  name : String
  groups : List Group
  /-- The local categories, without the open answer. -/
  locals : List Category
deriving Repr, DecidableEq

namespace Taxonomy

/-- The number of categories. -/
def categoryCount (t : Taxonomy) : Nat :=
  (t.groups.flatMap Group.children).length + t.locals.length

/-- Whether there is no category. -/
def isEmpty (t : Taxonomy) : Bool :=
  t.categoryCount == 0

end Taxonomy

end Codebook
