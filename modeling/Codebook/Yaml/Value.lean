import Codebook.Document.SetOrder
import Codebook.Number.Reading
import Codebook.Yaml.Node

/-!
# Values of nodes

The document that a node stands for. What is wrong with the parts of a collection comes up before what
is wrong deeper inside of them, so of several errors the one in the outermost collection counts, and of
those the first. A mapping may take over the fields of others; its own fields go before them. A collection
inside itself stands for the one around it.
-/

namespace Codebook.Yaml

/-! ## Scalars -/

/-- The parts of a list between colons as texts. -/
def colonTexts (chars : List Char) : List String :=
  (colonParts chars).map String.ofList

/-- The characters of a text that count in a number. -/
def numberChars (text : String) : List Char :=
  text.toList.filter (· != '_')

/-- The truth value of a text. -/
def truthOf (text : String) : Except Fault Bool :=
  let word := Text.lower text
  if ["yes", "true", "on"].contains word then .ok true
  else if ["no", "false", "off"].contains word then .ok false
  else .error (.notTruth word)

/-- The whole number of a text. -/
def wholeOf (text : String) : Except Fault Int := do
  let chars := numberChars text
  let (negative, chars) := Text.splitSign chars
  let read (base : Nat) (chars : List Char) : Except Fault Int :=
    (Text.readWhole base (String.ofList chars)).mapError .numeral
  let n ←
    match chars with
    | [] => .error .noDigits
    | ['0'] => .ok 0
    | '0' :: 'b' :: rest => read 2 rest
    | '0' :: 'x' :: rest => read 16 rest
    | '0' :: _ => read 8 chars
    | _ =>
      if chars.contains ':' then do
        let parts ← (colonParts chars).mapM (read 10)
        pure (parts.foldl (fun total part => 60 * total + part) 0)
      else read 10 chars
  return if negative then -n else n

/-- The number that parts of sixty stand for, the last part first. -/
def sixtiesOf (place : Nat) (total : Number.Binary64) : List Number.Binary64 → Number.Binary64
  | [] => total
  | part :: rest => sixtiesOf (60 * place) (total.sum (part.product (.ofInt place))) rest

/-- The number with a fraction of a text. -/
def realOf (text : String) : Except Fault Number.Binary64 := do
  let chars := (Text.lower (String.ofList (numberChars text))).toList
  if chars.isEmpty then .error .noDigits
  let (negative, chars) := Text.splitSign chars
  let word := String.ofList chars
  let read (text : String) : Except Fault Number.Binary64 :=
    match Number.Binary64.ofText? text with
    | some x => .ok x
    | none => .error (.notReal text)
  if word == ".nan" then return .notANumber
  let x ←
    if word == ".inf" then pure (.infinite false)
    else if chars.contains ':' then do
      let parts ← (colonTexts chars).mapM read
      pure (sixtiesOf 1 (.zero false) parts.reverse)
    else read word
  return if negative then x.opposite else x

/-- The number that digits stand for. -/
def digitsNumber (chars : List Char) : Nat :=
  Text.numberInBase 10 chars

/-- The minutes of a distance from universal time, which is less than a day. -/
def zoneOf (parts : ZoneParts) : Except Fault Int :=
  let minutes : Int := (60 * digitsNumber parts.hours + digitsNumber parts.minutes : Nat)
  let minutes := if parts.isNegative then -minutes else minutes
  if Moment.isOffset minutes then .ok minutes else .error (.calendar (.offset minutes))

/-- The day or moment of a text. -/
def momentOf (text : String) : Except Fault Scalar := do
  let some parts := momentParts? (withoutLineFeed text.toList) | .error .notMoment
  let day :=
    (Day.ofParts (digitsNumber parts.year) (digitsNumber parts.month)
      (digitsNumber parts.day)).mapError Fault.calendar
  match parts.time with
  | none => return .date (← day)
  | some time =>
    let offset ← time.zone.mapM zoneOf
    let fraction := (time.fraction ++ List.replicate 6 '0').take 6
    let moment :=
      Moment.ofParts (← day) (digitsNumber time.hour) (digitsNumber time.minute)
        (digitsNumber time.second) (digitsNumber fraction) offset
    return .moment (← moment.mapError Fault.calendar)

/-! ## Bytes -/

/-- The characters that stand for six bits each. -/
def sixBitChars : List Char :=
  "ABCDEFGHIJKLMNOPQRSTUVWXYZabcdefghijklmnopqrstuvwxyz0123456789+/".toList

/-- The bytes that groups of four times six bits stand for. `group` holds those of the group that is
begun, and `marks` counts the equals signs after it; other characters are passed over. -/
def bytesFrom (group : List Nat) (marks : Nat) : List Char → Option (List Nat)
  | [] => if group.isEmpty then some [] else none
  | c :: rest =>
    if c == '=' then
      if 2 ≤ group.length && 4 ≤ group.length + marks + 1 then some (closed group)
      else bytesFrom group (if 2 ≤ group.length then marks + 1 else marks) rest
    else
      match sixBitChars.findIdx? (· == c) with
      | none => bytesFrom group marks rest
      | some bits =>
        match group with
        | [a, b, d] =>
          (bytesFrom [] 0 rest).map
            ([a * 4 + b / 16, b % 16 * 16 + d / 4, d % 4 * 64 + bits] ++ ·)
        | _ => bytesFrom (group ++ [bits]) 0 rest
where
  /-- The bytes of a group that is not full. -/
  closed : List Nat → List Nat
    | [a, b] => [a * 4 + b / 16]
    | [a, b, d] => [a * 4 + b / 16, b % 16 * 16 + d / 4]
    | _ => []

/-- The bytes of a text. -/
def bytesOf (text : String) : Except Error (List Nat) :=
  let bytes := if text.toList.all fun c => c.toNat < 0x80 then bytesFrom [] 0 text.toList else none
  match bytes with
  | some bytes => .ok bytes
  | none => .error .malformed

/-! ## Nodes -/

namespace Node

/-- The collection that a node is, if it is one. -/
def collection? (all : Collections) : Node → Option Collection
  | scalar .. => none
  | collection number => all[number]?

/-- The tag of a node. -/
def tag (all : Collections) (node : Node) : Tag :=
  match node, node.collection? all with
  | _, some (.sequence tag _) => tag
  | _, some (.mapping tag _) => tag
  | scalar tag _, none => tag
  | collection _, none => .other

/-- Whether a node stands for a value with parts, which cannot be a key. -/
def hasParts (all : Collections) (node : Node) : Bool :=
  [.list, .mapping, .set, .orderedMap, .pairs].contains (node.tag all)

/-- The text of a scalar; a mapping with a default value has the text of that. -/
def text (all : Collections) (fuel : Nat) (node : Node) : Except Error String :=
  match fuel, node, node.collection? all with
  | _, scalar _ text, _ => .ok text
  | fuel + 1, _, some (.mapping _ fields) =>
    match fields.find? fun f => f.1.tag all == .default with
    | some (_, value) => value.text all fuel
    | none => .error .malformed
  | _, _, _ => .error .malformed

/-- The fields of a mapping after those that it takes over; of several mappings in a list the first one
goes last. A key that stands for a default value counts as a text. A mapping that takes over itself, as
those in `begun` may do, adds what it does not take over and what is left to take over. -/
def merged (all : Collections) (fuel : Nat) (begun : Keyed Nat (List (Node × Node))) (number : Nat) :
    Except Error (List (Node × Node)) :=
  let written : Option (List (Node × Node)) :=
    match all[number]? with
    | some (.mapping _ fields) => some ((begun.get? number).getD fields)
    | _ => none
  match fuel, written with
  | 0, _ | _, none => .error .malformed
  | fuel + 1, some fields => do
    let isTaken (f : Node × Node) : Bool := f.1.tag all == .merge
    let own := fields.filter fun f => !isTaken f
    let part (begun : Keyed Nat (List (Node × Node))) (source : Node) :
        Except Error (List (Node × Node)) :=
      match source with
      | collection number => merged all fuel begun number
      | scalar .. => .error .malformed
    let sources := fields.filter isTaken
    let taken ← sources.zipIdx.mapM fun (f, index) =>
      let begun := begun.put number (sources.drop (index + 1) ++ own)
      match f.2.collection? all with
      | some (.sequence _ items) =>
        (items.mapM (part begun)).map fun parts => parts.reverse.flatten
      | _ => part begun f.2
    return taken.flatten ++ own.map fun f =>
      match f.1 with
      | scalar .default text => (scalar .text text, f.2)
      | _ => f

end Node

/-! ## Values -/

/-- An error and the depth of the collection among whose parts it comes up. -/
structure DeepError where
  depth : Nat
  error : Error

/-- All results, or the error in the outermost collection, the first of those. -/
def collect {α : Type} : List (Except DeepError α) → Except DeepError (List α)
  | [] => .ok []
  | first :: rest =>
    match first, collect rest with
    | .ok a, .ok all => .ok (a :: all)
    | .ok _, .error e => .error e
    | .error e, .ok _ => .error e
    | .error e, .error e' => .error (if e'.depth < e.depth then e' else e)

/-- The mapping of fields that may repeat a key. -/
def mappingOf (fields : List (Scalar × Document)) : List (Scalar × Document) :=
  fields.foldl (fun all f => Document.putField all f.1 f.2) []

/-- The shape of the value of a collection with a tag. -/
def shapeOf : Tag → Shape
  | .mapping | .set => .mapping
  | _ => .list

/-- The value of a node among the parts of a collection at a depth; `around` holds the numbers of the
collections that the node stands in, the innermost one first, and nothing for a pair. -/
def Node.value (all : Collections) (fuel depth : Nat) (around : List (Option Nat)) (node : Node) :
    Except DeepError Document :=
  match fuel with
  | 0 => .error ⟨depth, .malformed⟩
  | fuel + 1 =>
    let text : Except DeepError String := (node.text all fuel).mapError (⟨depth, ·⟩)
    let read {α : Type} (f : String → Except Fault α) : Except DeepError α :=
      text.bind fun s => (f s).mapError fun fault => ⟨depth, .fault fault⟩
    let inner := depth + 1
    let malformed {α : Type} : Except DeepError α := .error ⟨inner, .malformed⟩
    let number : Option Nat :=
      match node with
      | .scalar .. => none
      | .collection number => some number
    let inside := number :: around
    let field (f : Node × Node) : Except DeepError (Scalar × Document) := do
      if f.1.hasParts all then malformed
      match ← f.1.value all fuel inner inside with
      | .scalar key => return (key, ← f.2.value all fuel inner inside)
      | _ => malformed
    let fields (_ : Unit) : Except DeepError (List (Scalar × Document)) :=
      match number with
      | some number => do
        let taken ← (Node.merged all (all.size * all.size + 2) [] number).mapError (⟨inner, ·⟩)
        collect (taken.map field)
      | none => malformed
    let pair (item : Node) : Except DeepError Document :=
      match item.collection? all with
      | some (.mapping _ [(first, second)]) => do
        let part (node : Node) := node.value all fuel inner (none :: inside)
        let values ← collect [part first, part second]
        return .pair (values.head?.getD .null) (values.getLast?.getD .null)
      | _ => malformed
    match around.findIdx? fun n => n.isSome && n == number with
    | some levels => .ok (.enclosing levels (shapeOf (node.tag all)))
    | none =>
      match node.tag all, node.collection? all with
      | .null, _ => text.map fun _ => Document.null
      | .truth, _ => (read truthOf).map Document.ofFlag
      | .whole, _ => (read wholeOf).map Document.ofInt
      | .real, _ => (read realOf).map fun x => .scalar (.number (.real x))
      | .bytes, _ =>
        text.bind fun s => ((bytesOf s).map fun b => .scalar (.bytes b)).mapError (⟨depth, ·⟩)
      | .moment, _ => (read momentOf).map .scalar
      | .text, _ => text.map Document.ofText
      | .list, some (.sequence _ items) =>
        (collect (items.map fun item => item.value all fuel inner inside)).map .list
      | .orderedMap, some (.sequence _ items) | .pairs, some (.sequence _ items) =>
        (collect (items.map pair)).map .list
      | .mapping, _ => (fields ()).map fun found => .mapping (mappingOf found)
      | .set, _ =>
        (fields ()).map fun found =>
          .set (SetOrder.arranged ((found.map Prod.fst).foldl Document.putItem []))
      | .list, _ | .orderedMap, _ | .pairs, _ => malformed
      | .merge, _ | .default, _ | .other, _ => .error ⟨depth, .malformed⟩

/-- Reads a text that holds one document; one that holds none stands for nothing. -/
def read (text : String) : Except Error Document := do
  match ← readNode text with
  | (none, _) => return Document.null
  | (some node, all) => (node.value all (text.length + all.size + 2) 0 []).mapError DeepError.error

end Codebook.Yaml
