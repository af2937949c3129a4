import Codebook.Document.Basic
import Codebook.Text.Blank

/-!
# Layout of documents

The form in which a message shows a whole document, on several lines where one is too short. A collection
that does not fit is written with a line for each part, all parts at one column, and a text that does not
fit is cut after line breaks and blanks into texts that follow each other.
-/

namespace Codebook.Document.Layout

/-- The number of columns of a line. -/
def columns : Int := 72

/-- A line break and so many blanks. -/
def newLine (indent : Nat) : String :=
  "\n" ++ String.ofList (List.replicate indent ' ')

/-! ## Texts -/

/-- Whether a character ends a line of a text. -/
def endsLine (c : Char) : Bool :=
  (0xA ≤ c.toNat && c.toNat ≤ 0xD) || (0x1C ≤ c.toNat && c.toNat ≤ 0x1E)
    || [0x85, 0x2028, 0x2029].contains c.toNat

/-- The lines of a text with the characters that end them; `read` holds the characters of the line that
is begun, the last one first. -/
def linesFrom (read : List Char) : List Char → List (List Char)
  | [] => if read.isEmpty then [] else [read.reverse]
  | '\r' :: '\n' :: rest => ('\n' :: '\r' :: read).reverse :: linesFrom [] rest
  | c :: rest => if endsLine c then (c :: read).reverse :: linesFrom [] rest else linesFrom (c :: read) rest

/-- The words of a line with the blanks after them; `read` holds the characters of the word that is begun,
the last one first. -/
def wordsFrom (read : List Char) : List Char → List (List Char)
  | [] => if read.isEmpty then [] else [read.reverse]
  | c :: rest =>
    if Text.isBlank c || !read.head?.any Text.isBlank then wordsFrom (c :: read) rest
    else read.reverse :: wordsFrom [c] rest

/-- Characters between quotes. -/
def quotedChars (chars : List Char) : String :=
  Text.quoted (String.ofList chars)

/-- Puts words together to texts that fit; the last word has to leave room for `allowance` characters if
the line is the last one. `current` holds the characters that are not yet written. -/
def packed (room : Int) (allowance : Nat) (isLast : Bool) (current : List Char) :
    List (List Char) → List String
  | [] => if current.isEmpty then [] else [quotedChars current]
  | word :: rest =>
    let room' := if rest.isEmpty && isLast then room - allowance else room
    if room' < (quotedChars (current ++ word)).length then
      (if current.isEmpty then [] else [quotedChars current]) ++ packed room allowance isLast word rest
    else packed room allowance isLast (current ++ word) rest

/-- The texts into which the lines of a text are cut. -/
def chunks (room : Int) (allowance : Nat) : List (List Char) → List String
  | [] => []
  | line :: rest =>
    let room' := if rest.isEmpty then room - allowance else room
    let whole := quotedChars line
    (if whole.length ≤ room' then [whole]
      else packed room allowance rest.isEmpty [] (wordsFrom [] line))
      ++ chunks room allowance rest

/-- A text that does not fit. A text alone stands between brackets. -/
def longText (indent allowance : Nat) (isAlone : Bool) (text : String) : String :=
  let indent := if isAlone then indent + 1 else indent
  let allowance := if isAlone then allowance + 1 else allowance
  match chunks (columns - indent) allowance (linesFrom [] text.toList) with
  | [] | [_] => Text.quoted text
  | all =>
    let joined := (newLine indent).intercalate all
    if isAlone then "(" ++ joined ++ ")" else joined

/-! ## Documents -/

mutual

/-- A document from a column on, so that `allowance` characters may follow on its last line. -/
def laid (indent allowance : Nat) (isAlone : Bool) : Document → String
  | .scalar (.text text) =>
    let whole := Text.quoted text
    if columns - indent - allowance < whole.length && !text.isEmpty then
      longText indent allowance isAlone text
    else whole
  | .scalar s => s.shown
  | .list items =>
    let whole := (Document.list items).shown
    if columns - indent - allowance < whole.length then
      "[" ++ itemsFrom (indent + 1) (allowance + 1) items ++ "]"
    else whole
  | .pair first second =>
    let whole := (Document.pair first second).shown
    if columns - indent - allowance < whole.length then
      "(" ++ laid (indent + 1) 1 false first ++ "," ++ newLine (indent + 1)
        ++ laid (indent + 1) (allowance + 1) false second ++ ")"
    else whole
  | .mapping fields =>
    let whole := (Document.mapping fields).shown
    if columns - indent - allowance < whole.length then
      "\x7b" ++ fieldsFrom (indent + 1) (allowance + 1) fields ++ "\x7d"
    else whole
  | .set items =>
    let whole := (Document.set items).shown
    if columns - indent - allowance < whole.length then
      "\x7b" ++ ("," ++ newLine (indent + 1)).intercalate (items.map Scalar.shown) ++ "\x7d"
    else whole
  | .enclosing levels shape => (Document.enclosing levels shape).shown

/-- The items of a list, each on a line of its own. -/
def itemsFrom (indent allowance : Nat) : List Document → String
  | [] => ""
  | [d] => laid indent allowance false d
  | d :: rest => laid indent 1 false d ++ "," ++ newLine indent ++ itemsFrom indent allowance rest

/-- The fields of a mapping, each on a line of its own. -/
def fieldsFrom (indent allowance : Nat) : List (Scalar × Document) → String
  | [] => ""
  | [(key, d)] =>
    let name := key.shown ++ ": "
    name ++ laid (indent + name.length) allowance false d
  | (key, d) :: rest =>
    let name := key.shown ++ ": "
    name ++ laid (indent + name.length) 1 false d ++ "," ++ newLine indent
      ++ fieldsFrom indent allowance rest

end

end Codebook.Document.Layout

namespace Codebook.Document

/-- The form of a document on one line or several. -/
def layout (d : Document) : String :=
  Layout.laid 0 0 true d

end Codebook.Document
