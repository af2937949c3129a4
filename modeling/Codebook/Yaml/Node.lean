import Codebook.Keyed
import Codebook.Yaml.Plain
import Codebook.Yaml.Scanner

/-!
# Nodes

The scalars, lists and mappings that the tokens of a text make up. Lists and mappings are numbered, and a
node is a scalar or the number of a collection, so that collections may hold themselves. A node may be
given a name, by which later nodes refer to it. A text holds one document.
-/

namespace Codebook.Yaml

/-- A node of a document. -/
inductive Node where
  | scalar (tag : Tag) (text : String)
  /-- The collection with a number. -/
  | collection (number : Nat)
deriving Repr, DecidableEq

/-- A list or a mapping. -/
inductive Collection where
  | sequence (tag : Tag) (items : List Node)
  | mapping (tag : Tag) (fields : List (Node × Node))
deriving Repr, DecidableEq

/-- The collections of a document by their numbers. -/
abbrev Collections := Array Collection

/-- The node where none is written. -/
def Node.empty : Node := .scalar .null ""

/-- The tokens that are left, and what is known about names, tags and collections. -/
structure Reader where
  tokens : List Token
  anchors : Keyed String Node
  handles : Keyed String String
  collections : Collections

namespace Reader

/-- The first token; after the last one it is the end of the text. -/
def head (r : Reader) : Token :=
  r.tokens.head?.getD .streamEnd

/-- The reader after its first token. -/
def next (r : Reader) : Reader :=
  { r with tokens := r.tokens.drop 1 }

/-- The error of a token that may not stand here. -/
def refuse {α : Type} (r : Reader) : Except Error α :=
  match r.head with
  | .broken fault => .error (.fault fault)
  | _ => .error .malformed

/-- The reader that gives a node a name. -/
def withAnchor (r : Reader) (name : Option String) (node : Node) : Reader :=
  match name with
  | some name => { r with anchors := r.anchors.put name node }
  | none => r

/-- The number of the next collection. -/
def nextNumber (r : Reader) : Nat :=
  r.collections.size

/-- The reader that begins a collection, whose number is the next one, under a name. -/
def began (r : Reader) (name : Option String) : Reader :=
  let named := r.withAnchor name (.collection r.nextNumber)
  { named with collections := named.collections.push (.sequence .list []) }

/-- The node of a collection that is over. -/
def ended (number : Nat) (result : Collection × Reader) : Node × Reader :=
  let (collection, r) := result
  (.collection number, { r with collections := r.collections.setIfInBounds number collection })

/-! ## Names and tags of nodes -/

/-- What is written in front of a node. -/
structure Properties where
  anchor : Option String
  /-- The written form of the tag. -/
  tag : Option String

/-- The written form of a tag, its handle replaced. -/
def tagText (r : Reader) (handle : Option String) (suffix : String) : Except Error String :=
  match handle with
  | none => .ok suffix
  | some name =>
    match r.handles.get? name with
    | some replacement => .ok (replacement ++ suffix)
    | none => .error .malformed

/-- Reads the name and the tag in front of a node, in either order. -/
def properties (r : Reader) : Except Error (Properties × Reader) :=
  match r.head, r.next.head with
  | .tag .., .broken fault => .error (.fault fault)
  | .anchor name, .tag handle suffix =>
    (r.tagText handle suffix).map fun tag => (⟨some name, some tag⟩, r.next.next)
  | .tag handle suffix, .anchor name =>
    (r.tagText handle suffix).map fun tag => (⟨some name, some tag⟩, r.next.next)
  | .anchor name, _ => .ok (⟨some name, none⟩, r.next)
  | .tag handle suffix, _ => (r.tagText handle suffix).map fun tag => (⟨none, some tag⟩, r.next)
  | _, _ => .ok (⟨none, none⟩, r)

namespace Properties

/-- Whether nothing is written in front of the node. -/
def isEmpty (p : Properties) : Bool :=
  p.anchor.isNone && p.tag.isNone

/-- The tag of a collection, of which `usual` is the one that need not be written. -/
def collectionTag (p : Properties) (usual : Tag) : Tag :=
  match p.tag with
  | none | some "!" => usual
  | some written => Tag.ofText written

/-- The tag of a scalar; an exclamation mark makes it count as one without quotes. -/
def scalarTag (p : Properties) (text : String) (isPlain : Bool) : Tag :=
  match p.tag with
  | none => if isPlain then Tag.ofPlain text else .text
  | some "!" => Tag.ofPlain text
  | some written => Tag.ofText written

end Properties

/-! ## Nodes -/

/-- Whether a value is missing before a token in block style. -/
def lacksBlockValue : Token → Bool
  | .key | .value | .blockEnd => true
  | _ => false

/-- Whether an item is missing before a token in block style; `inMapping` says that the items stand at
the column of a mapping. -/
def lacksBlockItem (inMapping : Bool) : Token → Bool
  | .blockEntry | .blockEnd => true
  | .key | .value => inMapping
  | _ => false

/-- Whether a value is missing before a token between brackets. -/
def lacksFlowValue (close : Token) (token : Token) : Bool :=
  token == .flowEntry || token == close

mutual

/-- Reads a node. `inBlock` says that a collection in block style may begin here, and `inMapping` that
its items may stand at the column of a mapping. -/
def node (fuel : Nat) (inBlock inMapping : Bool) (r : Reader) : Except Error (Node × Reader) :=
  match fuel with
  | 0 => .error .malformed
  | fuel + 1 =>
    match r.head with
    | .reference name =>
      match r.anchors.get? name with
      | some node => .ok (node, r.next)
      | none => .error .malformed
    | _ => do
      let (written, r) ← r.properties
      if written.anchor.any fun name => r.anchors.has name then .error .malformed
      else
        let scalar (text : String) (isPlain : Bool) (r : Reader) : Node × Reader :=
          let node := Node.scalar (written.scalarTag text isPlain) text
          (node, r.withAnchor written.anchor node)
        let listTag := written.collectionTag .list
        let fieldsTag := written.collectionTag .mapping
        let inside := r.began written.anchor
        let close := ended r.nextNumber
        match r.head, inBlock with
        | .scalar text isPlain, _ => return scalar text isPlain r.next
        | .flowSequenceStart, _ => (flowItems fuel listTag [] inside.next).map close
        | .flowMappingStart, _ => (flowFields fuel fieldsTag [] inside.next).map close
        | .blockSequenceStart, true => (blockItems fuel false listTag [] inside.next).map close
        | .blockMappingStart, true => (blockFields fuel fieldsTag [] inside.next).map close
        | .blockEntry, _ =>
          if inMapping then (blockItems fuel true listTag [] inside).map close
          else if written.isEmpty then .error .malformed
          else return scalar "" true r
        | .broken fault, _ => .error (.fault fault)
        | _, _ =>
          if written.isEmpty then .error .malformed
          else return scalar "" true r

/-- Reads a node between brackets, unless it is missing. -/
def flowValue (fuel : Nat) (close : Token) (r : Reader) : Except Error (Node × Reader) :=
  match fuel with
  | 0 => .error .malformed
  | fuel + 1 =>
    if lacksFlowValue close r.head then .ok (Node.empty, r) else node fuel false false r

/-- Reads the value of a key between brackets, which may be missing together with its colon. -/
def flowAfterKey (fuel : Nat) (close : Token) (r : Reader) : Except Error (Node × Reader) :=
  match fuel with
  | 0 => .error .malformed
  | fuel + 1 =>
    if r.head == .value then flowValue fuel close r.next else .ok (Node.empty, r)

/-- Reads a key between brackets, unless it is missing, and its value. -/
def flowPair (fuel : Nat) (close : Token) (r : Reader) : Except Error ((Node × Node) × Reader) :=
  match fuel with
  | 0 => .error .malformed
  | fuel + 1 => do
    let (key, r) ← if r.head == .value then pure (Node.empty, r) else flowValue fuel close r
    let (value, r) ← flowAfterKey fuel close r
    return ((key, value), r)

/-- Reads the items up to a closing bracket; an item may be a single field of a mapping. -/
def flowItems (fuel : Nat) (tag : Tag) (read : List Node) (r : Reader) :
    Except Error (Collection × Reader) :=
  match fuel with
  | 0 => .error .malformed
  | fuel + 1 =>
    if r.head == .flowSequenceEnd then .ok (.sequence tag read.reverse, r.next)
    else do
      let (item, r) ←
        if r.head == .key then
          (flowPair fuel .flowSequenceEnd r.next).map fun (field, r) =>
            ended r.nextNumber (.mapping .mapping [field], r.began none)
        else node fuel false false r
      match r.head with
      | .flowEntry => flowItems fuel tag (item :: read) r.next
      | .flowSequenceEnd => return (.sequence tag (item :: read).reverse, r.next)
      | _ => r.refuse

/-- Reads the fields up to a closing brace; a key may come without a value. -/
def flowFields (fuel : Nat) (tag : Tag) (read : List (Node × Node)) (r : Reader) :
    Except Error (Collection × Reader) :=
  match fuel with
  | 0 => .error .malformed
  | fuel + 1 =>
    if r.head == .flowMappingEnd then .ok (.mapping tag read.reverse, r.next)
    else do
      let (field, r) ←
        if r.head == .key then flowPair fuel .flowMappingEnd r.next
        else (node fuel false false r).map fun (key, r) => ((key, Node.empty), r)
      match r.head with
      | .flowEntry => flowFields fuel tag (field :: read) r.next
      | .flowMappingEnd => return (.mapping tag (field :: read).reverse, r.next)
      | _ => r.refuse

/-- Reads the items of a sequence in block style. One at the column of a mapping has no token for its
end. -/
def blockItems (fuel : Nat) (inMapping : Bool) (tag : Tag) (read : List Node) (r : Reader) :
    Except Error (Collection × Reader) :=
  match fuel with
  | 0 => .error .malformed
  | fuel + 1 =>
    if r.head == .blockEntry then do
      let r := r.next
      let (item, r) ←
        if lacksBlockItem inMapping r.head then pure (Node.empty, r) else node fuel true false r
      blockItems fuel inMapping tag (item :: read) r
    else if inMapping then .ok (.sequence tag read.reverse, r)
    else if r.head == .blockEnd then .ok (.sequence tag read.reverse, r.next)
    else r.refuse

/-- Reads the fields of a mapping in block style; a key may come without a value. -/
def blockFields (fuel : Nat) (tag : Tag) (read : List (Node × Node)) (r : Reader) :
    Except Error (Collection × Reader) :=
  match fuel with
  | 0 => .error .malformed
  | fuel + 1 =>
    if r.head == .key then do
      let (key, r) ← blockValue fuel r.next
      let (value, r) ← if r.head == .value then blockValue fuel r.next else pure (Node.empty, r)
      blockFields fuel tag ((key, value) :: read) r
    else if r.head == .blockEnd then .ok (.mapping tag read.reverse, r.next)
    else r.refuse

/-- Reads a key or a value in block style, unless it is missing. -/
def blockValue (fuel : Nat) (r : Reader) : Except Error (Node × Reader) :=
  match fuel with
  | 0 => .error .malformed
  | fuel + 1 => if lacksBlockValue r.head then .ok (Node.empty, r) else node fuel true true r

end

/-! ## Documents -/

/-- The handles that need no directive. -/
def knownHandles : Keyed String String :=
  [("!", "!"), ("!!", Tag.home)]

/-- Reads the directives of a document: one version at most, which begins with a one, and each handle
once. -/
def directives (r : Reader) (hasVersion : Bool) (handles : Keyed String String) :
    List Token → Except Error Reader
  | .directive (.version major) :: rest =>
    if hasVersion || major != 1 then .error .malformed else r.directives true handles rest
  | .directive (.handle name replacement) :: rest =>
    if handles.has name then .error .malformed
    else r.directives hasVersion (handles.put name replacement) rest
  | .directive .other :: rest => r.directives hasVersion handles rest
  | rest => .ok { r with tokens := rest, handles := Keyed.putAll knownHandles handles }

/-- Reads the node of the document at the beginning of the tokens. -/
def document (r : Reader) : Except Error (Node × Reader) :=
  let fuel := 4 * r.tokens.length + 4
  match r.head with
  | .directive _ | .documentStart => do
    let r ← r.directives false [] r.tokens
    if r.head != .documentStart then r.refuse
    else
      let r := r.next
      match r.head with
      | .directive _ | .documentStart | .documentEnd | .streamEnd => return (Node.empty, r)
      | _ => node fuel true false r
  | _ => node fuel true false { r with handles := knownHandles }

end Reader

/-- The tokens after the marks that end a document. -/
def afterEnds (tokens : List Token) : List Token :=
  tokens.dropWhile (· == .documentEnd)

/-- The node of a text, if it holds one, and the collections of the text. -/
def readNode (text : String) : Except Error (Option Node × Collections) := do
  let tokens ← tokens text
  let r : Reader := ⟨tokens, [], [], #[]⟩
  if r.head == .streamEnd then return (none, #[])
  let (node, r) ← r.document
  let r := { r with tokens := afterEnds r.tokens }
  if r.head == .streamEnd then return (some node, r.collections)
  else (← r.directives false [] r.tokens).refuse

end Codebook.Yaml
