import Codebook.Yaml.Scalar

/-!
# Names, tags and directives

The parts of a text that say something about a node or a document: the name of an anchor, the tag of a
node, which is written out between angle brackets or begins with a handle, and the lines that begin with
a percent sign.
-/

namespace Codebook.Yaml

/-! ## Names -/

/-- Whether a character may follow a name. -/
def followsName (c : Char) : Bool :=
  endsWord c || "?:,]\x7d%@`".toList.contains c

/-- Reads a name after its indicator. -/
def anchorName (s : Source) : Except Error (String × Source) :=
  let (name, after) := s.next.span isNameChar
  if name.isEmpty || !followsName after.head then .error .malformed
  else .ok (String.ofList name, after)

/-! ## Tags -/

/-- Whether the written part of a tag may hold the character. -/
def isTagChar (c : Char) : Bool :=
  c.isAlphanum || "-;/?:@&=+$,_.!~*'()[]%".toList.contains c

/-- Reads the codes of bytes after percent signs. -/
def byteCodes (fuel : Nat) (s : Source) : Except Error (List UInt8 × Source) :=
  match fuel with
  | 0 => .error .malformed
  | fuel + 1 =>
    if s.head != '%' then .ok ([], s)
    else
      match hexNumber? [s.peek 1, s.peek 2] with
      | some code => (byteCodes fuel (s.drop 3)).map fun (codes, after) => (code.toUInt8 :: codes, after)
      | none => .error .malformed

/-- Reads the written part of a tag. -/
def tagText (fuel : Nat) (s : Source) : Except Error (List Char × Source) :=
  match fuel with
  | 0 => .error .malformed
  | fuel + 1 => do
    let (plain, after) := s.span fun c => isTagChar c && c != '%'
    if after.head != '%' then return (plain, after)
    let (codes, after) ← byteCodes fuel after
    match String.fromUTF8? ⟨codes.toArray⟩ with
    | some decoded => do
      let (rest, after) ← tagText fuel after
      return (plain ++ decoded.toList ++ rest, after)
    | none => .error .malformed

/-- Reads the written part of a tag, which may not be empty. -/
def tagSuffix (s : Source) : Except Error (String × Source) := do
  let (chars, after) ← tagText (s.rest.length + 1) s
  if after.index == s.index then .error .malformed else return (String.ofList chars, after)

/-- Reads a handle: an exclamation mark, alone before a space, or a name between two of them. -/
def tagHandle (s : Source) : Except Error (String × Source) :=
  if s.head != '!' then .error .malformed
  else if s.peek 1 == ' ' then .ok ("!", s.next)
  else
    let (name, after) := s.next.span isNameChar
    if after.head == '!' then .ok (String.ofList ('!' :: name ++ ['!']), after.next)
    else .error .malformed

/-- Reads a tag at its exclamation mark: its handle, if it has one, and the rest of it. -/
def tag (s : Source) : Except Error (Token × Source) := do
  let c := s.peek 1
  let (token, after) ←
    if c == '<' then do
      let (suffix, after) ← tagSuffix (s.drop 2)
      if after.head == '>' then pure (Token.tag none suffix, after.next) else .error .malformed
    else if endsWord c then pure (Token.tag none "!", s.next)
    else do
      let word := s.next.rest.takeWhile fun c => !endsName c
      let (handle, after) ← if word.contains '!' then tagHandle s else pure ("!", s.next)
      let (suffix, after) ← tagSuffix after
      pure (Token.tag (some handle) suffix, after)
  if endsName after.head then return (token, after) else .error .malformed

/-! ## Directives -/

/-- Reads a number. -/
def versionNumber (s : Source) : Except Error (Nat × Source) :=
  let (digits, after) := s.span Char.isDigit
  if digits.isEmpty then .error .malformed else .ok (Text.numberInBase 10 digits, after)

/-- Reads the version after its directive: two numbers with a point between them. -/
def versionDirective (s : Source) : Except Error (Directive × Source) := do
  let (major, s) ← versionNumber s.skipSpaces
  if s.head != '.' then .error .malformed
  else
    let (_, s) ← versionNumber s.next
    if endsName s.head then return (.version major, s) else .error .malformed

/-- Reads a handle and what it stands for after their directive. -/
def handleDirective (s : Source) : Except Error (Directive × Source) := do
  let (name, s) ← tagHandle s.skipSpaces
  if s.head != ' ' then .error .malformed
  else
    let (replacement, s) ← tagSuffix s.skipSpaces
    if endsName s.head then return (.handle name replacement, s) else .error .malformed

/-- Reads a directive at its percent sign, with the rest of its line. -/
def directive (s : Source) : Except Error (Token × Source) := do
  let (name, s) := s.next.span isNameChar
  if name.isEmpty || !endsName s.head then .error .malformed
  else
    let (read, s) ←
      if name == "YAML".toList then versionDirective s
      else if name == "TAG".toList then handleDirective s
      else pure (Directive.other, s.skip fun c => !endsLine c)
    let s := s.skipSpaces.skipComment
    if endsLine s.head then return (Token.directive read, s.skipBreak) else .error .malformed

end Codebook.Yaml
