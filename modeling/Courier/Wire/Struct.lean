import Courier.Struct
import Courier.Wire.Item
/-!
Structs on the wire.  A struct is a map from names to values, and a value holds at most one of six
kinds.  Nested messages and map entries each take one from a budget; fields that occur again are
merged: entries replace entries of the same name, lists grow, and a kind gives way to another kind.
-/
namespace Courier.Wire

/-- How deep messages may nest. -/
def nestingLimit : Nat := 100

def doubleField (tag : Nat) (x : Double) : Bytes :=
  key tag .fixed64 ++ littleEndian 8 x.bits.toNat

mutual

/-- The fields of a value: none, or the one of its kind. -/
def encodeValue : Value → Bytes
  | .unset => []
  | .null n => key 1 .varint ++ varint (wordOfInt n)
  | .number x => doubleField 2 x
  | .string s => bytesField 3 (Text.utf8 s)
  | .bool b => key 4 .varint ++ varint (if b then 1 else 0)
  | .struct fields => bytesField 5 (encodeEntries fields)
  | .list items => bytesField 6 (encodeItems items)
termination_by structural v => v

def encodeItems : List Value → Bytes
  | [] => []
  | v :: vs => bytesField 1 (encodeValue v) ++ encodeItems vs
termination_by structural l => l

def encodeEntries : List (String × Value) → Bytes
  | [] => []
  | e :: es => bytesField 1 (encodeEntry e) ++ encodeEntries es
termination_by structural l => l

/-- A name and a value, each left out when it is empty. -/
def encodeEntry : String × Value → Bytes
  | (k, .unset) => textOrNone 1 k
  | (k, v) => textOrNone 1 k ++ bytesField 2 (encodeValue v)
termination_by structural e => e

end

def encodeStruct (s : Struct) : Bytes := encodeEntries s

/-- Text of a field. -/
def textPayload? : Payload → Option String
  | .bytes b => Text.ofUtf8? b
  | _ => none

/-- Unknown fields are skipped while the budget lasts. -/
def skipUnknown {α : Type} (budget : Nat) (a : α) : Option α := if budget == 0 then none else some a

/-- The struct that a value holds, for merging. -/
def structOf : Value → Struct
  | .struct fields => fields
  | _ => []

def listOf : Value → List Value
  | .list items => items
  | _ => []

mutual

/-- Merge the fields of a struct into `s`. -/
def mergeStruct : Nat → Struct → Bytes → Option Struct
  | 0, _, _ => none
  | budget + 1, s, b =>
    (items? [1] budget b).bind fun items =>
      items.foldlM (fun s item =>
        match item.payload with
        | .entry e =>
          (mergeEntry budget ("", .unset) e).map fun kv => Table.insert kv.1 kv.2 s
        | _ => skipUnknown budget s) s
termination_by structural budget => budget

def mergeEntry : Nat → String × Value → Bytes → Option (String × Value)
  | 0, _, _ => none
  | budget + 1, kv, b =>
    (items? [] budget b).bind fun items =>
      items.foldlM (fun kv item =>
        match item.tag, item.payload with
        | 1, p => (textPayload? p).map fun k => (k, kv.2)
        | 2, .bytes v => (mergeValue budget kv.2 v).map fun v => (kv.1, v)
        | 2, _ => none
        | _, _ => skipUnknown budget kv) kv
termination_by structural budget => budget

def mergeValue : Nat → Value → Bytes → Option Value
  | 0, _, _ => none
  | budget + 1, v, b =>
    (items? [] budget b).bind fun items =>
      items.foldlM (fun v item =>
        match item.tag, item.payload with
        | 1, .varint n => some (.null (int32OfWord n))
        | 2, .fixed64 n => some (.number ⟨UInt64.ofNat n⟩)
        | 3, p => (textPayload? p).map .string
        | 4, .varint n => some (.bool (n != 0))
        | 5, .bytes s => (mergeStruct budget (structOf v) s).map .struct
        | 6, .bytes l => (mergeList budget (listOf v) l).map .list
        | n + 1, _ => if n < 6 then none else skipUnknown budget v
        | 0, _ => none) v
termination_by structural budget => budget

def mergeList : Nat → List Value → Bytes → Option (List Value)
  | 0, _, _ => none
  | budget + 1, l, b =>
    (items? [] budget b).bind fun items =>
      items.foldlM (fun l item =>
        match item.tag, item.payload with
        | 1, .bytes v => (mergeValue budget .unset v).map fun v => l ++ [v]
        | 1, _ => none
        | _, _ => skipUnknown budget l) l
termination_by structural budget => budget

end

end Courier.Wire
