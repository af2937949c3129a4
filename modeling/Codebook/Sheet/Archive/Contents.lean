import Codebook.Sheet.Archive

/-!
# Contents of archives

The content of an entry follows its header, which repeats the name. By the first method it stands there as
it is. A content that is packed by another method counts as empty, which its checksum has to bear out.
-/

namespace Codebook.Archive

/-! ## Checksums -/

/-- A checksum after one more bit. -/
def checksumStep (n : Nat) : Nat :=
  if n % 2 == 1 then (n / 2) ^^^ 0xEDB88320 else n / 2

/-- A checksum after one more byte. -/
def checksumWith (n byte : Nat) : Nat :=
  (List.range 8).foldl (fun n _ => checksumStep n) (n ^^^ byte)

/-- The checksum of bytes. -/
def checksumOf (bytes : List Nat) : Nat :=
  bytes.foldl checksumWith (Nat.pow 2 32 - 1) ^^^ (Nat.pow 2 32 - 1)

/-! ## Contents -/

/-- The number of bytes of the header of an entry, without its texts. -/
def headerSize : Nat := 30

/-- The methods that a content may be packed by; none is the first. -/
def methods : List Nat := [0, 8, 12, 14]

namespace Entry

/-- The bytes after the header of an entry. -/
def packed (e : Entry) (bytes : List Nat) : Except Error (List Nat) := do
  if e.place < 0 then throw (.damaged .badPlace)
  let header := bytes.drop e.place.toNat
  if header.length < headerSize then throw (.damaged .shortHeader)
  if !entryMark.isPrefixOf header then throw (.damaged .badHeader)
  let name := (header.drop headerSize).take (numberAt header 26 2)
  if hasFlag e.flags 5 then throw (.demanding .patched)
  if hasFlag e.flags 6 then throw (.demanding .stronglyEncrypted)
  let written ← nameOf (hasFlag (numberAt header 6 2) 11) name
  if written != e.written then throw (.damaged (.otherName e.written name))
  if hasFlag e.flags 0 then throw (.demanding (.encrypted e.name))
  if !methods.contains e.method then throw (.demanding .method)
  return header.drop (headerSize + name.length + numberAt header 28 2)

/-- The content of an entry. -/
def content (e : Entry) (bytes : List Nat) : Except Error (List Nat) := do
  let packed ← e.packed bytes
  if packed.length < min e.packedSize (max e.size 1) then throw (.demanding .moreBytes)
  let content := if e.method == 0 then packed.take (min e.packedSize e.size) else []
  if checksumOf content != e.checksum then throw (.damaged (.badChecksum e.name))
  return content

end Entry

end Codebook.Archive
