import Codebook.Document.Basic

/-!
# Archives

What the bytes of a file say about the archive in it. An archive ends in a record that tells how long the
directory in front of it is, after which a comment may follow; a longer record in front of it may tell this
in its place. The directory has one record for each entry, with its name and the place at which the entry
begins. Numbers stand with their last byte first.
-/

namespace Codebook.Archive

/-! ## Errors -/

/-- What is wrong with an archive. -/
inductive Damage where
  | noEnd
  | severalDisks
  | badOffset
  | shortDirectory
  | badRecord
  /-- A name is no text: these bytes from a place on are no character. -/
  | badName (place : Nat) (bytes : List Nat) (isStart : Bool)
  /-- An extra field of a kind is longer than the extra fields. -/
  | badExtra (kind size : Nat)
  /-- The extra field for long numbers lacks one. -/
  | noLongNumber (field : String)
  /-- An entry begins in front of the file. -/
  | badPlace
  | shortHeader
  | badHeader
  | otherName (name : String) (inHeader : List Nat)
  | badChecksum (name : String)
deriving Repr, DecidableEq

/-- What an archive asks for that no reader is prepared for. -/
inductive Demand where
  /-- An entry needs a reader of this version, times ten. -/
  | newer (version : Nat)
  | patched
  | stronglyEncrypted
  | encrypted (name : String)
  | method
  /-- An entry goes on after the end of the file. -/
  | moreBytes
deriving Repr, DecidableEq

/-- Why an archive cannot be read. -/
inductive Error where
  | damaged (cause : Damage)
  | demanding (cause : Demand)
deriving Repr, DecidableEq

/-- What is said of bytes in a name that are no character. -/
def badNameText (place : Nat) (bytes : List Nat) (isStart : Bool) : String :=
  let which :=
    match bytes with
    | [byte] => "byte 0x" ++ String.ofList (Text.hexDigits 2 byte) ++ " in position " ++ toString place
    | _ => "bytes in position " ++ toString place ++ "-" ++ toString (place + bytes.length - 1)
  "'utf-8' codec can't decode " ++ which ++ ": "
    ++ (if isStart then "invalid start byte" else "unexpected end of data")

/-- The message of a damage. -/
def Damage.message : Damage → String
  | noEnd => "File is not a zip file"
  | severalDisks => "zipfiles that span multiple disks are not supported"
  | badOffset => "Bad offset for central directory"
  | shortDirectory => "Truncated central directory"
  | badRecord => "Bad magic number for central directory"
  | badName place bytes isStart => badNameText place bytes isStart
  | badExtra kind size =>
    "Corrupt extra field " ++ String.ofList (Text.hexDigits 4 kind) ++ " (size=" ++ toString size ++ ")"
  | noLongNumber field => "Corrupt zip64 extra field. " ++ field ++ " not found."
  | badPlace => "[Errno 22] Invalid argument"
  | shortHeader => "Truncated file header"
  | badHeader => "Bad magic number for file header"
  | otherName name inHeader =>
    "File name in directory " ++ Text.quoted name ++ " and header " ++ Scalar.shownBytes inHeader
      ++ " differ."
  | badChecksum name => "Bad CRC-32 for file " ++ Text.quoted name

/-- The message of a demand. -/
def Demand.message : Demand → String
  | newer version => "zip file version " ++ toString (version / 10) ++ "." ++ toString (version % 10)
  | patched => "compressed patched data (flag bit 5)"
  | stronglyEncrypted => "strong encryption (flag bit 6)"
  | encrypted name => "File " ++ Text.quoted name ++ " is encrypted, password required for extraction"
  | method => "That compression method is not supported"
  | moreBytes => ""

/-! ## Records -/

/-- The bytes of a text. -/
def bytesOf (text : String) : List Nat :=
  text.toUTF8.toList.map UInt8.toNat

/-- How the header of an entry begins. -/
def entryMark : List Nat := bytesOf "PK\x03\x04"

/-- How a record of the directory begins. -/
def recordMark : List Nat := bytesOf "PK\x01\x02"

/-- How the record at the end begins. -/
def endMark : List Nat := bytesOf "PK\x05\x06"

/-- How the longer record at the end begins. -/
def longEndMark : List Nat := bytesOf "PK\x06\x06"

/-- How the record begins that leads to the longer record at the end. -/
def locatorMark : List Nat := bytesOf "PK\x06\x07"

/-- The number of bytes of a record of the directory, without its texts. -/
def recordSize : Nat := 46

/-- The number of bytes of the record at the end. -/
def endSize : Nat := 22

/-- The number of bytes of the longer record at the end. -/
def longEndSize : Nat := 56

/-- The number of bytes of the record that leads to the longer record at the end. -/
def locatorSize : Nat := 20

/-- The greatest number of bytes of a comment. -/
def commentLimit : Nat := 65536

/-- The greatest version, times ten, that is understood. -/
def versionLimit : Nat := 63

/-- The number in `count` bytes from a place on. -/
def numberAt (bytes : List Nat) (place count : Nat) : Nat :=
  ((bytes.drop place).take count).foldr (fun byte rest => byte + 256 * rest) 0

/-- Whether the flag with a number is set. -/
def hasFlag (flags number : Nat) : Bool :=
  flags.testBit number

/-! ## The end -/

/-- The last place in bytes at which a mark stands. -/
def lastPlace? (mark : List Nat) (bytes : List Nat) : Option Nat :=
  let rec go (place : Nat) (found : Option Nat) : List Nat → Option Nat
    | [] => found
    | byte :: rest =>
      go (place + 1) (if mark.isPrefixOf (byte :: rest) then some place else found) rest
  go 0 none bytes

/-- The place of the record at the end. -/
def endPlace? (bytes : List Nat) : Option Nat :=
  let size := bytes.length
  let plain := bytes.drop (size - endSize)
  if endSize ≤ size && endMark.isPrefixOf plain && numberAt plain 20 2 == 0 then some (size - endSize)
  else if size < endSize then none
  else
    let skipped := size - (commentLimit + endSize)
    match lastPlace? endMark (bytes.drop skipped) with
    | some place => if skipped + place + endSize ≤ size then some (skipped + place) else none
    | none => none

/-- Where the directory of an archive is. -/
structure Extent where
  start : Nat
  size : Nat
  /-- How much further back everything is than the records say. -/
  shift : Int
deriving Repr, DecidableEq

/-- The extent of a directory that ends at a place and is said to begin at another one. -/
def extentOf (place size said : Nat) : Except Error Extent :=
  if place < size then .error (.damaged .badOffset)
  else .ok ⟨place - size, size, (place : Int) - size - said⟩

/-- The extent of the directory, by the record at a place at the end. -/
def extent (bytes : List Nat) (place : Nat) : Except Error Extent := do
  let plain := extentOf place (numberAt bytes (place + 12) 4) (numberAt bytes (place + 16) 4)
  let locator := bytes.drop (place - locatorSize)
  if place < locatorSize || !locatorMark.isPrefixOf locator then plain
  else if numberAt locator 4 4 != 0 || 1 < numberAt locator 16 4 then .error (.damaged .severalDisks)
  else if place < locatorSize + longEndSize then .error (.damaged .noEnd)
  else
    let long := place - locatorSize - longEndSize
    if longEndMark.isPrefixOf (bytes.drop long) then
      extentOf long (numberAt bytes (long + 40) 8) (numberAt bytes (long + 48) 8)
    else plain

/-! ## Names -/

/-- Whether a byte goes on with a character that has begun. -/
def isContinuation (byte : Nat) : Bool := 0x80 ≤ byte && byte < 0xC0

/-- What is wrong with bytes that are cut from the middle of a text. -/
def badName (bytes : List Nat) : Damage :=
  match bytes with
  | byte :: _ =>
    if isContinuation byte then .badName 0 [byte] true
    else
      let begun := (bytes.reverse.takeWhile isContinuation).length + 1
      .badName (bytes.length - begun) (bytes.drop (bytes.length - begun)) false
  | [] => .badName 0 [] false

/-- The name in bytes, of a text or of single characters. -/
def nameOf (isText : Bool) (bytes : List Nat) : Except Error String :=
  if isText then
    match String.fromUTF8? ⟨(bytes.map UInt8.ofNat).toArray⟩ with
    | some text => .ok text
    | none => .error (.damaged (badName bytes))
  else .ok (String.ofList (bytes.map Char.ofNat))

/-! ## Extra fields -/

/-- Numbers of an entry that may be too long for its record. -/
structure Extents where
  size : Nat
  packedSize : Nat
  place : Nat
deriving Repr, DecidableEq

/-- The number that stands for one that is too long for a record. -/
def tooLong : Nat := Nat.pow 2 32 - 1

/-- A number of a record, or the long one at the beginning of bytes if it stands for that, and the bytes
after it. -/
def lengthened (field : String) (isLong : Bool) (number : Nat) (bytes : List Nat) :
    Except Error (Nat × List Nat) :=
  if !isLong then .ok (number, bytes)
  else if bytes.length < 8 then .error (.damaged (.noLongNumber field))
  else .ok (numberAt bytes 0 8, bytes.drop 8)

/-- Numbers with the long ones that an extra field holds. -/
def Extents.lengthened (e : Extents) (bytes : List Nat) : Except Error Extents := do
  let isLong (n : Nat) : Bool := n == tooLong
  let (size, rest) ← Archive.lengthened "File size" (isLong e.size || e.size == Nat.pow 2 64 - 1) e.size bytes
  let (packedSize, rest) ← Archive.lengthened "Compress size" (isLong e.packedSize) e.packedSize rest
  let (place, _) ← Archive.lengthened "Header offset" (isLong e.place) e.place rest
  return ⟨size, packedSize, place⟩

/-- Numbers with the long ones that extra fields hold; `fuel` bounds the number of fields. -/
def Extents.withExtra (e : Extents) (fuel : Nat) (extra : List Nat) : Except Error Extents :=
  match fuel with
  | 0 => .ok e
  | fuel + 1 => do
    if extra.length < 4 then return e
    let kind := numberAt extra 0 2
    let size := numberAt extra 2 2
    if extra.length < size + 4 then throw (.damaged (.badExtra kind size))
    let e ← if kind == 1 then e.lengthened ((extra.drop 4).take size) else pure e
    e.withExtra fuel (extra.drop (size + 4))

/-! ## The directory -/

/-- An entry of an archive, as the directory tells of it. -/
structure Entry where
  /-- The name as it is written, of which only what is in front of a null character counts. -/
  written : String
  flags : Nat
  method : Nat
  checksum : Nat
  size : Nat
  packedSize : Nat
  /-- The place of the header of the entry. -/
  place : Int
deriving Repr, DecidableEq

namespace Entry

/-- The name of an entry. -/
def name (e : Entry) : String :=
  String.ofList (e.written.toList.takeWhile fun c => c.toNat != 0)

end Entry

/-- The entries in the records of a directory, everything further back by a shift; `fuel` bounds their
number. -/
def entriesIn (shift : Int) (fuel : Nat) (records : List Nat) : Except Error (List Entry) :=
  match fuel, records with
  | 0, _ | _, [] => .ok []
  | fuel + 1, records => do
    if records.length < recordSize then throw (.damaged .shortDirectory)
    if !recordMark.isPrefixOf records then throw (.damaged .badRecord)
    let number := numberAt records
    let texts := records.drop recordSize
    let written ← nameOf (hasFlag (number 8 2) 11) (texts.take (number 28 2))
    if versionLimit < number 6 1 then throw (.demanding (.newer (number 6 1)))
    let extra := (texts.drop (number 28 2)).take (number 30 2)
    let e ← (⟨number 24 4, number 20 4, number 42 4⟩ : Extents).withExtra (extra.length + 1) extra
    let entry : Entry :=
      ⟨written, number 8 2, number 10 2, number 16 4, e.size, e.packedSize, e.place + shift⟩
    return entry :: (← entriesIn shift fuel (texts.drop (number 28 2 + number 30 2 + number 32 2)))

/-- The entries of an archive. -/
def entries (bytes : List Nat) : Except Error (List Entry) := do
  let some place := endPlace? bytes | throw (.damaged .noEnd)
  let e ← extent bytes place
  let records := (bytes.drop e.start).take e.size
  entriesIn e.shift records.length records

end Codebook.Archive
