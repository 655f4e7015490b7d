import Courier.Wire.Varint
/-!
Fields of a message, one after the other: a key that holds a number and a wire type, then a payload in
the form of that type.  Entries of maps are always read as bytes that a length precedes.  Groups are
only ever skipped.
-/
namespace Courier.Wire

inductive WireType where
  | varint | fixed64 | bytes | startGroup | endGroup | fixed32
  deriving DecidableEq, Repr

def WireType.number : WireType → Nat
  | .varint => 0
  | .fixed64 => 1
  | .bytes => 2
  | .startGroup => 3
  | .endGroup => 4
  | .fixed32 => 5

def WireType.ofNumber? (n : Nat) : Option WireType :=
  [varint, fixed64, bytes, startGroup, endGroup, fixed32][n]?

inductive Payload where
  | varint (value : Nat)
  | fixed64 (value : Nat)
  | fixed32 (value : Nat)
  | bytes (value : Bytes)
  | entry (value : Bytes)
  | group
  deriving DecidableEq, Repr

structure Item where
  tag : Nat
  payload : Payload
  deriving DecidableEq, Repr

/-- Keys fit 32 bits, and tags start from one. -/
def readKey? (input : Bytes) : Option (Nat × WireType × Bytes) :=
  match readVarint? input with
  | none => none
  | some (key, rest) =>
    if key < Word.size32 && 8 ≤ key then
      (WireType.ofNumber? (key % 8)).map fun w => (key / 8, w, rest)
    else none

def takeBytes? (count : Nat) (input : Bytes) : Option (Bytes × Bytes) :=
  let front := input.take count
  if front.length == count then some (front, input.drop count) else none

/-- Bytes behind their length. -/
def readBytes? (input : Bytes) : Option (Bytes × Bytes) :=
  match readVarint? input with
  | none => none
  | some (count, rest) => takeBytes? count rest

/-- What follows the end of group `tag`.  Groups inside it count against `budget`. -/
def skipGroup? (tag : Nat) : Nat → Nat → Bytes → Option Bytes
  | 0, _, _ => none
  | fuel + 1, budget, input =>
    match readKey? input with
    | none => none
    | some (inner, wire, rest) =>
      match wire with
      | .endGroup => if inner == tag then some rest else none
      | .startGroup =>
        match budget with
        | 0 => none
        | budget' + 1 =>
          match skipGroup? inner fuel budget' rest with
          | none => none
          | some rest' => skipGroup? tag fuel budget rest'
      | .varint =>
        if budget == 0 then none
        else match readVarint? rest with
          | none => none
          | some (_, rest') => skipGroup? tag fuel budget rest'
      | .fixed64 =>
        if budget == 0 then none
        else match takeBytes? 8 rest with
          | none => none
          | some (_, rest') => skipGroup? tag fuel budget rest'
      | .fixed32 =>
        if budget == 0 then none
        else match takeBytes? 4 rest with
          | none => none
          | some (_, rest') => skipGroup? tag fuel budget rest'
      | .bytes =>
        if budget == 0 then none
        else match readBytes? rest with
          | none => none
          | some (_, rest') => skipGroup? tag fuel budget rest'

/-- One field; `maps` are the tags of maps, and `budget` bounds nesting. -/
def readItem? (maps : List Nat) (budget : Nat) (input : Bytes) : Option (Item × Bytes) :=
  match readKey? input with
  | none => none
  | some (tag, wire, rest) =>
    if maps.contains tag then (readBytes? rest).map fun r => (⟨tag, .entry r.1⟩, r.2)
    else
      match wire with
      | .varint => (readVarint? rest).map fun r => (⟨tag, .varint r.1⟩, r.2)
      | .fixed64 => (takeBytes? 8 rest).map fun r => (⟨tag, .fixed64 (ofLittleEndian r.1)⟩, r.2)
      | .fixed32 => (takeBytes? 4 rest).map fun r => (⟨tag, .fixed32 (ofLittleEndian r.1)⟩, r.2)
      | .bytes => (readBytes? rest).map fun r => (⟨tag, .bytes r.1⟩, r.2)
      | .startGroup =>
        match budget with
        | 0 => none
        | budget' + 1 =>
          (skipGroup? tag (rest.length + 1) budget' rest).map fun r => (⟨tag, .group⟩, r)
      | .endGroup => none

/-- Every field of a message. -/
def readItems? (maps : List Nat) (budget : Nat) : Nat → Bytes → Option (List Item)
  | _, [] => some []
  | 0, _ :: _ => none
  | fuel + 1, input@(_ :: _) =>
    match readItem? maps budget input with
    | none => none
    | some (item, rest) => (readItems? maps budget fuel rest).map (item :: ·)

def items? (maps : List Nat) (budget : Nat) (input : Bytes) : Option (List Item) :=
  readItems? maps budget input.length input

def key (tag : Nat) (wire : WireType) : Bytes := varint (tag * 8 + wire.number)

/-- A field of bytes. -/
def bytesField (tag : Nat) (content : Bytes) : Bytes :=
  key tag .bytes ++ varint content.length ++ content

/-- A field of bytes that is left out when empty. -/
def bytesOrNone (tag : Nat) (content : Bytes) : Bytes :=
  if content.isEmpty then [] else bytesField tag content

def textOrNone (tag : Nat) (s : String) : Bytes := bytesOrNone tag (Text.utf8 s)

end Courier.Wire
