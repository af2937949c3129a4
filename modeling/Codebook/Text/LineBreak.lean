/-!
# Line breaks

Files end their lines with a line feed, a carriage return or both. Reading a file makes each of these a
line feed.
-/

namespace Codebook.Text

/-- Characters in which a line feed stands for every line break. -/
def unifyBreaks : List Char → List Char
  | '\r' :: '\n' :: rest => '\n' :: unifyBreaks rest
  | '\r' :: rest => '\n' :: unifyBreaks rest
  | c :: rest => c :: unifyBreaks rest
  | [] => []

/-- A text in which a line feed stands for every line break. -/
def withUnifiedBreaks (text : String) : String :=
  String.ofList (unifyBreaks text.toList)

end Codebook.Text
