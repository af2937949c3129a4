import Codebook.Text.Case

/-!
# Addresses

An address names a resource: a scheme, a host, a path with parameters at its end, a query and a fragment.
A reference is read from the address in which it stands, as the standard of addresses says: what it
leaves out is taken from there, and its path goes on where the last slash of the other one is. A host may
stand in brackets, of which both have to be there, and holds no character that stands for a mark of an
address.
-/

namespace Codebook

/-- The parts of an address. -/
structure Address where
  scheme : String
  host : String
  path : String
  parameters : String
  query : String
  fragment : String
deriving Repr, DecidableEq

/-- What is wrong with the host of an address. -/
inductive HostFault where
  /-- Only one of the brackets is there. -/
  | lonelyBracket
  /-- A character stands for a mark of an address. -/
  | hiddenMark (host : String)
deriving Repr, DecidableEq

/-- The message of a fault. -/
def HostFault.message : HostFault → String
  | lonelyBracket => "Invalid IPv6 URL"
  | hiddenMark host => "netloc '" ++ host ++ "' contains invalid characters under NFKC normalization"

namespace Address

/-! ## Hosts -/

/-- The characters that stand for texts with a mark of an address. -/
def hiddenMarks : List Nat :=
  [
    0x2047, 0x2048, 0x2049, 0x2100, 0x2101, 0x2105, 0x2106, 0x2A74, 0xFE13, 0xFE16, 0xFE55, 0xFE56,
    0xFE5F, 0xFE6B, 0xFF03, 0xFF0F, 0xFF1A, 0xFF1F, 0xFF20
  ]

/-- The host that characters are. -/
def hostOf (chars : List Char) : Except HostFault String :=
  let host := String.ofList chars
  if chars.contains '[' != chars.contains ']' then .error .lonelyBracket
  else if chars.any fun c => hiddenMarks.contains c.toNat then .error (.hiddenMark host)
  else .ok host

/-! ## Schemes -/

/-- The schemes whose addresses have hosts. -/
def hostSchemes : List String :=
  [
    "", "ftp", "http", "gopher", "nntp", "telnet", "imap", "wais", "file", "mms", "https", "shttp",
    "snews", "prospero", "rtsp", "rtspu", "rsync", "svn", "svn+ssh", "sftp", "nfs", "git", "git+ssh",
    "ws", "wss"
  ]

/-- The schemes with references. -/
def relativeSchemes : List String :=
  [
    "", "ftp", "http", "gopher", "nntp", "imap", "wais", "file", "https", "shttp", "mms", "prospero",
    "rtsp", "rtspu", "sftp", "svn", "svn+ssh", "ws", "wss"
  ]

/-- The schemes whose paths have parameters. -/
def parameterSchemes : List String :=
  [
    "", "ftp", "hdl", "prospero", "http", "imap", "https", "shttp", "rtsp", "rtspu", "sip", "sips",
    "mms", "sftp", "tel"
  ]

/-- Whether a character may stand in a scheme. -/
def isSchemeChar (c : Char) : Bool :=
  c.isAlphanum || "+-.".toList.contains c

/-! ## Reading -/

/-- The characters before the first one that a text is cut at, and those after it, if there is one. -/
def cutAt (mark : Char) (chars : List Char) : List Char × Option (List Char) :=
  match chars.dropWhile (· != mark) with
  | [] => (chars, none)
  | _ :: rest => (chars.takeWhile (· != mark), some rest)

/-- The scheme in front of a colon, if there is one, and the rest. -/
def cutScheme (chars : List Char) : Option String × List Char :=
  match cutAt ':' chars with
  | (first :: more, some rest) =>
    if first.isAlpha && more.all isSchemeChar then
      (some (Text.lower (String.ofList (first :: more))), rest)
    else (none, chars)
  | _ => (none, chars)

/-- The host after two slashes, and the rest. -/
def cutHost : List Char → List Char × List Char
  | '/' :: '/' :: rest =>
    let isOfHost (c : Char) : Bool := !"/?#".toList.contains c
    (rest.takeWhile isOfHost, rest.dropWhile isOfHost)
  | chars => ([], chars)

/-- The path without the parameters of its last step, and the parameters. -/
def cutParameters (path : List Char) : List Char × List Char :=
  let last := (path.reverse.takeWhile (· != '/')).reverse
  match cutAt ';' last with
  | (before, some parameters) => (path.take (path.length - last.length) ++ before, parameters)
  | (_, none) => (path, [])

/-- The characters of an address as it counts: without tabs and line breaks. -/
def counted (text : String) : List Char :=
  text.toList.filter fun c => c != '\t' && c != '\r' && c != '\n'

/-- The parts of an address, the parameters left in the path; one without a scheme has the given one. -/
def whole (scheme : String) (text : String) : Except HostFault Address :=
  let (own, rest) := cutScheme (counted text)
  let (host, rest) := cutHost rest
  let (rest, fragment) := cutAt '#' rest
  let (path, query) := cutAt '?' rest
  (hostOf host).map fun host =>
    ⟨own.getD scheme, host, String.ofList path, "", String.ofList (query.getD []),
      String.ofList (fragment.getD [])⟩

/-- The parts of an address; one without a scheme has the given one. -/
def ofText (scheme : String) (text : String) : Except HostFault Address :=
  (whole scheme text).map fun a =>
    if parameterSchemes.contains a.scheme then
      let (path, parameters) := cutParameters a.path.toList
      { a with path := String.ofList path, parameters := String.ofList parameters }
    else a

/-! ## Writing -/

/-- A part behind its mark, if there is something in it. -/
def marked (mark : String) (part : String) : String :=
  if part.isEmpty then "" else mark ++ part

/-- The text of an address. -/
def text (a : Address) : String :=
  let path := a.path ++ marked ";" a.parameters
  let hasHost :=
    !a.host.isEmpty
      || (!a.scheme.isEmpty && hostSchemes.contains a.scheme && !path.startsWith "//")
  let located :=
    if hasHost then
      "//" ++ a.host ++ (if path.isEmpty || path.startsWith "/" then path else "/" ++ path)
    else path
  (if a.scheme.isEmpty then "" else a.scheme ++ ":") ++ located ++ marked "?" a.query
    ++ marked "#" a.fragment

/-- The address as it is compared: without an empty query or fragment and with a scheme in small
letters. -/
def normal (text : String) : Except HostFault String :=
  (whole "" text).map Address.text

/-- The address without its fragment, and the fragment. -/
def withoutFragment (text : String) : Except HostFault (String × String) :=
  if text.toList.contains '#' then
    (ofText "" text).map fun a => ({ a with fragment := "" }.text, a.fragment)
  else .ok (text, "")

/-! ## References -/

/-- The steps of a path without those that stay where they are and those that lead back; `read` holds
the steps read, the last one first. -/
def walked (read : List String) : List String → List String
  | [] => read.reverse
  | ".." :: rest => walked read.tail rest
  | "." :: rest => walked read rest
  | step :: rest => walked (step :: read) rest

/-- Steps without the empty ones between the first and the last. -/
def withoutEmpty : List String → List String
  | first :: more =>
    match more.getLast? with
    | some last => first :: more.dropLast.filter (· != "") ++ [last]
    | none => [first]
  | [] => []

/-- The path of a reference, read from a path. -/
def pathFrom (base path : String) : String :=
  let around := base.splitOn "/"
  let around := if around.getLast? == some "" then around else around.dropLast
  let steps :=
    if path.startsWith "/" then path.splitOn "/" else withoutEmpty (around ++ path.splitOn "/")
  let closing := if steps.getLast? == some "." || steps.getLast? == some ".." then [""] else []
  let whole := "/".intercalate (walked [] steps ++ closing)
  if whole.isEmpty then "/" else whole

/-- An address read from the address around it; both have the same scheme. -/
def readFrom (base reference : Address) : Address :=
  if hostSchemes.contains reference.scheme && !reference.host.isEmpty then reference
  else
    let r :=
      if hostSchemes.contains reference.scheme then { reference with host := base.host } else reference
    if r.path.isEmpty && r.parameters.isEmpty then
      { r with
        path := base.path
        parameters := base.parameters
        query := if r.query.isEmpty then base.query else r.query }
    else { r with path := pathFrom base.path r.path }

/-- The address that a reference names where an address is around it. -/
def joined (base reference : String) : Except HostFault String := do
  if base.isEmpty then return reference
  if reference.isEmpty then return base
  let b ← ofText "" base
  let r ← ofText b.scheme reference
  if r.scheme != b.scheme || !relativeSchemes.contains r.scheme then return reference
  else return (readFrom b r).text

/-! ## Escapes -/

/-- The number that two hexadecimal digits stand for. -/
def byte? (a b : Char) : Option Nat :=
  let digit? (c : Char) : Option Nat :=
    if c.isDigit then some (c.toNat - '0'.toNat)
    else if 'a' ≤ c && c ≤ 'f' then some (c.toNat - 'a'.toNat + 10)
    else if 'A' ≤ c && c ≤ 'F' then some (c.toNat - 'A'.toNat + 10)
    else none
  do return 16 * (← digit? a) + (← digit? b)

/-- How many bytes follow the first byte of a character, the bits that it gives, and between which bounds
the second byte lies. -/
def leadByte? (n : Nat) : Option (Nat × Nat × Nat × Nat) :=
  if 0xC2 ≤ n && n ≤ 0xDF then some (1, n - 0xC0, 0x80, 0xBF)
  else if n == 0xE0 then some (2, 0, 0xA0, 0xBF)
  else if n == 0xED then some (2, 0xD, 0x80, 0x9F)
  else if 0xE1 ≤ n && n ≤ 0xEF then some (2, n - 0xE0, 0x80, 0xBF)
  else if n == 0xF0 then some (3, 0, 0x90, 0xBF)
  else if 0xF1 ≤ n && n ≤ 0xF3 then some (3, n - 0xF0, 0x80, 0xBF)
  else if n == 0xF4 then some (3, 4, 0x80, 0x8F)
  else none

/-- What stands for bytes that are no character. -/
def replacement : Char := Char.ofNat 0xFFFD

/-- The characters that bytes stand for. `begun?` tells how many more bytes the begun character has, its
bits so far, and the bounds of the next byte. -/
def decoded (begun? : Option (Nat × Nat × Nat × Nat)) : List Nat → List Char
  | [] => if begun?.isSome then [replacement] else []
  | n :: rest =>
    let begun : List Char :=
      if n < 0x80 then Char.ofNat n :: decoded none rest
      else
        match leadByte? n with
        | some lead => decoded (some lead) rest
        | none => replacement :: decoded none rest
    match begun? with
    | none => begun
    | some (more, bits, low, high) =>
      if low ≤ n && n ≤ high then
        let bits := 64 * bits + (n - 0x80)
        if more == 1 then Char.ofNat bits :: decoded none rest
        else decoded (some (more - 1, bits, 0x80, 0xBF)) rest
      else replacement :: begun

/-- The characters of a text in which a percent sign and two hexadecimal digits stand for a byte; `read`
holds the bytes read since the last character outside ASCII, the last one first. -/
def unescapedFrom (read : List Nat) : List Char → List Char
  | [] => decoded none read.reverse
  | '%' :: a :: b :: rest =>
    match byte? a b with
    | some n => unescapedFrom (n :: read) rest
    | none => unescapedFrom ('%'.toNat :: read) (a :: b :: rest)
  | c :: rest =>
    if c.toNat < 0x80 then unescapedFrom (c.toNat :: read) rest
    else decoded none read.reverse ++ c :: unescapedFrom [] rest

/-- A text without escapes. -/
def unescaped (text : String) : String :=
  String.ofList (unescapedFrom [] text.toList)

end Address

end Codebook
