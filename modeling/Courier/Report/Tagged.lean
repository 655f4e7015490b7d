import Courier.Json.Field
import Courier.Struct
/-!
A form of values that shows the kind of each: an object with one field, named for the kind.  A value
that is not set is an empty object.
-/
namespace Courier.Report

open Json

def number (x : Double) : Json :=
  if x.isNaN then .str "NaN"
  else if x.isInfinite then .str (if x.isNegative then "-inf" else "inf")
  else .double x

def readNumber? : Json → Option Value
  | .int n => some (Value.ofInt n)
  | .double x => some (.number x)
  | .str "NaN" => some (.number .nan)
  | .str "inf" => some (.number (.infinity false))
  | .str "-inf" => some (.number (.infinity true))
  | _ => none

mutual

def tagged : Value → Json
  | .unset => .obj []
  | .null n => .obj [("null", .int n)]
  | .bool b => .obj [("bool", .bool b)]
  | .number x => .obj [("number", number x)]
  | .string s => .obj [("string", .str s)]
  | .list items => .obj [("list", .arr (taggedItems items))]
  | .struct f => .obj [("struct", .obj (taggedFields f))]

def taggedItems : List Value → List Json
  | [] => []
  | v :: rest => tagged v :: taggedItems rest

def taggedFields : List (String × Value) → List (String × Json)
  | [] => []
  | (k, v) :: rest => (k, tagged v) :: taggedFields rest

end

mutual

def readTagged? : Json → Option Value
  | .obj [] => some .unset
  | .obj [("null", .int n)] => some (.null n)
  | .obj [("bool", .bool b)] => some (.bool b)
  | .obj [("number", n)] => readNumber? n
  | .obj [("string", .str s)] => some (.string s)
  | .obj [("list", .arr items)] => (readItems? items).map .list
  | .obj [("struct", .obj f)] => (readFields? f).map .struct
  | _ => none

def readItems? : List Json → Option (List Value)
  | [] => some []
  | j :: rest => (readTagged? j).bind fun v => (readItems? rest).map (v :: ·)

def readFields? : List (String × Json) → Option (List (String × Value))
  | [] => some []
  | (k, j) :: rest => (readTagged? j).bind fun v => (readFields? rest).map ((k, v) :: ·)

end

def struct (s : Struct) : Json := .obj (taggedFields s)

def readStruct (name : String) : Json → Read Struct
  | .obj f =>
    match readFields? f with
    | some s => .ok s
    | none => Field.wrong name
  | _ => Field.wrong name

end Courier.Report
