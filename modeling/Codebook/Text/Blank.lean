/-!
# Blank characters

The white space of the Unicode Character Database, and what is left of a text once the white space
at its ends is gone. The separators that the database files under the controls (`U+001C` to
`U+001F`) count; the zero width space and the byte order mark do not.
-/

namespace Codebook.Text

/-- Whether a character is white space. -/
def isBlank (c : Char) : Bool :=
  let n := c.toNat
  (0x9 ≤ n && n ≤ 0xD) || (0x1C ≤ n && n ≤ 0x20) || n == 0x85 || n == 0xA0 || n == 0x1680 ||
    (0x2000 ≤ n && n ≤ 0x200A) || n == 0x2028 || n == 0x2029 || n == 0x202F || n == 0x205F ||
    n == 0x3000

/-- The characters without the blanks at both ends. -/
def trimChars (chars : List Char) : List Char :=
  ((chars.dropWhile isBlank).reverse.dropWhile isBlank).reverse

/-- The text without the blanks at both ends. -/
def trim (text : String) : String :=
  String.ofList (trimChars text.toList)

/-- Whether nothing but blanks is in the text. -/
def isAllBlank (text : String) : Bool :=
  text.toList.all isBlank

end Codebook.Text
