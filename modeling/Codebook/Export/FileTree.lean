import Codebook.Keyed
import Codebook.Text.Quoted
import Codebook.Sheet.Spreadsheet

/-!
# File trees

The directories and files that a program sees from its working directory, and what becomes of them when
a directory is made or a file written. A path is a list of names; names that are empty or a single dot
are left out of it, and two dots lead to the directory above.
-/

namespace Codebook

/-! ## Paths -/

/-- A path, relative to the working directory or to the root. -/
structure Path where
  /-- The slashes at the front of a path from the root. -/
  root : String
  names : List String
deriving Repr, DecidableEq

namespace Path

/-- The path to the working directory. -/
def here : Path := ⟨"", []⟩

/-- What stands between slashes. -/
def betweenSlashes : List Char → List (List Char)
  | [] => [[]]
  | c :: rest => if c == '/' then [] :: betweenSlashes rest else (betweenSlashes rest).modifyHead (c :: ·)

/-- The names between the slashes of a text. -/
def splitNames (text : String) : List String :=
  ((betweenSlashes text.toList).map String.ofList).filter fun name => !name.isEmpty && name != "."

/-- The path that a text stands for. -/
def ofText (text : String) : Path :=
  let slashes := (text.toList.takeWhile (· == '/')).length
  ⟨if slashes == 0 then "" else if slashes == 2 then "//" else "/", splitNames text⟩

/-- The text of a path. -/
def text (p : Path) : String :=
  if p.root.isEmpty && p.names.isEmpty then "." else p.root ++ "/".intercalate p.names

/-- The path to what a text stands for, seen from another path. -/
def join (p : Path) (text : String) : Path :=
  let q := ofText text
  if q.root.isEmpty then { p with names := p.names ++ q.names } else q

/-- The last name of a path. -/
def name (p : Path) : String :=
  p.names.getLast?.getD ""

end Path

/-! ## Trees -/

/-- What a single file holds. -/
inductive FileContent where
  | text (text : String)
  | sheets (sheets : Spreadsheet)
deriving Repr, DecidableEq

/-- What a file holds, an archive included. -/
inductive StoredContent where
  | single (content : FileContent)
  /-- The entries in the order in which they were added. -/
  | archive (entries : List (String × FileContent))
deriving Repr, DecidableEq

/-- Where a path leads: the names from the working directory or from the root on. -/
abbrev Location := List String

/-- Files and directories. -/
structure FileTree where
  files : Keyed Location StoredContent
  directories : List Location
deriving Repr, DecidableEq

/-- Why a directory or a file is not made. -/
inductive Obstacle where
  | absent
  | fileThere
  | notDirectory
  | isDirectory
  | nameTooLong
  | nullCharacter
deriving Repr, DecidableEq

/-- An obstacle on a path. -/
structure FileError where
  obstacle : Obstacle
  path : Path
deriving Repr, DecidableEq

namespace FileError

/-- The message of an error. -/
def message (e : FileError) : String :=
  let numbered (text : String) := text ++ ": " ++ Text.quoted e.path.text
  match e.obstacle with
  | .absent => numbered "[Errno 2] No such file or directory"
  | .fileThere => numbered "[Errno 17] File exists"
  | .notDirectory => numbered "[Errno 20] Not a directory"
  | .isDirectory => numbered "[Errno 21] Is a directory"
  | .nameTooLong => numbered "[Errno 36] File name too long"
  | .nullCharacter => "embedded null byte"

/-- Whether the file system made the error, and not the form of the path. -/
def isSystemError (e : FileError) : Bool :=
  e.obstacle != .nullCharacter

end FileError

namespace FileTree

/-- The tree of an empty working directory. -/
def empty : FileTree := ⟨[], []⟩

/-- The greatest number of bytes of a name. -/
def nameLimit : Nat := 255

/-- The number of bytes that no path reaches. -/
def pathLimit : Nat := 4096

/-- Where the walk along a path begins. -/
def start (p : Path) : Location :=
  if p.root.isEmpty then [] else ["/"]

/-- The directory above a location. Above the working directory nothing is known but the way. -/
def above (at_ : Location) : Location :=
  match at_.getLast? with
  | none => [".."]
  | some last => if last == ".." then at_ ++ [".."] else if last == "/" then at_ else at_.dropLast

/-- Whether a location is a directory, as the working directory and all above it are. -/
def isDirectory (tree : FileTree) (at_ : Location) : Bool :=
  at_.all (fun name => name == ".." || name == "/") || tree.directories.contains at_

/-- Whether a location is a file. -/
def isFile (tree : FileTree) (at_ : Location) : Bool :=
  tree.files.has at_

/-- Whether anything is at a location. -/
def isThere (tree : FileTree) (at_ : Location) : Bool :=
  tree.isDirectory at_ || tree.isFile at_

/-- Where names lead from a directory that is there. -/
def walk (tree : FileTree) (at_ : Location) : List String → Except Obstacle Location
  | [] => .ok at_
  | name :: rest =>
    if !tree.isDirectory at_ then .error (if tree.isFile at_ then .notDirectory else .absent)
    else if name == ".." then walk tree (above at_) rest
    else if nameLimit < name.utf8ByteSize then .error .nameTooLong
    else walk tree (at_ ++ [name]) rest

/-- What the form of a path alone rules out. -/
def checkForm (p : Path) : Except Obstacle Unit :=
  if p.text.toList.contains (Char.ofNat 0) then .error .nullCharacter
  else if pathLimit ≤ p.text.utf8ByteSize then .error .nameTooLong
  else .ok ()

/-- Where a path leads, whether something is there or not. -/
def locate (tree : FileTree) (p : Path) : Except Obstacle Location := do
  checkForm p
  walk tree (start p) p.names

/-- Whether a path leads to something that is there. -/
def has (tree : FileTree) (p : Path) : Bool :=
  match tree.locate p with
  | .ok at_ => tree.isThere at_
  | .error _ => false

/-! ## Changes -/

/-- Makes the directory that a path leads to, in a directory that is there. -/
def makeLast (tree : FileTree) (p : Path) : Except Obstacle FileTree := do
  checkForm p
  let some name := p.names.getLast? | .error .fileThere
  let at_ ← walk tree (start p) p.names.dropLast
  if !tree.isDirectory at_ then .error (if tree.isFile at_ then .notDirectory else .absent)
  else if name == ".." then .error .fileThere
  else if nameLimit < name.utf8ByteSize then .error .nameTooLong
  else if tree.isThere (at_ ++ [name]) then .error .fileThere
  else .ok { tree with directories := tree.directories ++ [at_ ++ [name]] }

/-- What an attempt to make a directory comes to: an obstacle does not count if it is a directory that is
there already. -/
def settle (tree : FileTree) (p : Path) (made : Except Obstacle FileTree) :
    Except FileError Unit × FileTree :=
  match made with
  | .ok tree => (.ok (), tree)
  | .error obstacle =>
    match tree.locate p with
    | .ok at_ => (if tree.isDirectory at_ then .ok () else .error ⟨obstacle, p⟩, tree)
    | .error _ => (.error ⟨obstacle, p⟩, tree)

/-- Makes the directory that the first `count` names of a path lead to. Where the one above is absent,
that one is made first, and the error of an attempt names the path of the attempt. -/
def makeUpTo (tree : FileTree) (p : Path) (count : Nat) : Except FileError Unit × FileTree :=
  let here : Path := { p with names := p.names.take count }
  match count, tree.makeLast here with
  | count + 1, .error .absent =>
    match makeUpTo tree p count with
    | (.ok _, tree) => tree.settle here (tree.makeLast here)
    | failed => failed
  | _, made => tree.settle here made

/-- Makes a directory and those above it; directories that are there stay as they are, and so do those
that were made before an error. -/
def makeDirectory (tree : FileTree) (p : Path) : Except FileError Unit × FileTree :=
  makeUpTo tree p p.names.length

/-- Writes a file in a directory that is there, in place of an earlier file. -/
def write (tree : FileTree) (p : Path) (content : StoredContent) : Except FileError FileTree :=
  let written := do
    let at_ ← tree.locate p
    if tree.isDirectory at_ then .error .isDirectory
    else .ok { tree with files := tree.files.put at_ content }
  written.mapError fun obstacle => ⟨obstacle, p⟩

/-- What is in the file that a path leads to. -/
def read? (tree : FileTree) (p : Path) : Option StoredContent :=
  match tree.locate p with
  | .ok at_ => tree.files.get? at_
  | .error _ => none

/-- The text in a file; what is no text has none. -/
def textOf : Option StoredContent → String
  | some (.single (.text text)) => text
  | _ => ""

/-- Writes a text at the end of a file in a directory that is there; a file that is not there is made. -/
def appendText (tree : FileTree) (p : Path) (text : String) : Except FileError FileTree :=
  tree.write p (.single (.text (textOf (tree.read? p) ++ text)))

/-- Whether a location lies in the working directory or below it. -/
def isInside (at_ : Location) : Bool :=
  at_.all fun name => name != ".." && name != "/"

/-- The text of the way to a location from the working directory. -/
def wayTo (at_ : Location) : String :=
  (Path.mk "" at_).text

/-- The files below the working directory with their paths, in the order of the names on the way. -/
def listing (tree : FileTree) : List (String × StoredContent) :=
  let inside := tree.files.filter fun (at_, _) => isInside at_
  let sorted := inside.mergeSort fun a b => !decide (b.1 < a.1)
  sorted.map fun (at_, content) => (wayTo at_, content)

end FileTree

namespace StoredContent

/-- The entries of an archive as they are found by their names: of several entries with one name the
last one is found. -/
def found (entries : List (String × FileContent)) : List (String × FileContent) :=
  entries.map fun (name, content) => (name, (entries.reverse.lookup name).getD content)

end StoredContent

end Codebook
