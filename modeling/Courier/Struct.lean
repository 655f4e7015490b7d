import Courier.Json
/-!
Structs: the dynamic values that the tunnel carries for claims.  Every number of a struct is a double, a
value may lack a kind, and a null carries a number of its own.  `ofJson` and `toJson` convert; whole
numbers below 2^53 in magnitude come back as integers, and numbers that JSON cannot hold as null.  Here
are `json_to_struct`, `struct_to_json` and `number_to_json`.
-/
namespace Courier

inductive Value where
  | unset
  | null (number : Int)
  | bool (value : Bool)
  | number (value : Double)
  | string (value : String)
  | list (items : List Value)
  | struct (fields : List (String × Value))
  deriving Repr, Inhabited

abbrev Struct := Table Value

namespace Value

/-- The double nearest to an integer of JSON. -/
def ofInt (n : Int) : Value := .number (Double.ofInt n)

mutual

def ofJson : Json → Value
  | .null => .null 0
  | .bool b => .bool b
  | .int n => ofInt n
  | .double x => .number x
  | .str s => .string s
  | .arr items => .list (ofItems items)
  | .obj fields => .struct (ofFields fields)
termination_by structural j => j

def ofItems : List Json → List Value
  | [] => []
  | x :: xs => ofJson x :: ofItems xs
termination_by structural l => l

def ofFields : List (String × Json) → List (String × Value)
  | [] => []
  | f :: fs => ofField f :: ofFields fs
termination_by structural l => l

def ofField : String × Json → String × Value
  | (k, v) => (k, ofJson v)
termination_by structural f => f

end

/-- Whole numbers below this are integers in JSON. -/
def wholeLimit : Int := 9007199254740992

def numberJson (x : Double) : Json :=
  if !x.isFinite then .null
  else
    match x.toInt? with
    | some n => if n.natAbs < wholeLimit then .int n else .double x
    | none => .double x

mutual

def toJson : Value → Json
  | .unset => .null
  | .null _ => .null
  | .bool b => .bool b
  | .number x => numberJson x
  | .string s => .str s
  | .list items => .arr (toItems items)
  | .struct fields => .obj (toFields fields)
termination_by structural v => v

def toItems : List Value → List Json
  | [] => []
  | x :: xs => toJson x :: toItems xs
termination_by structural l => l

def toFields : List (String × Value) → List (String × Json)
  | [] => []
  | f :: fs => toField f :: toFields fs
termination_by structural l => l

def toField : String × Value → String × Json
  | (k, v) => (k, toJson v)
termination_by structural f => f

end

end Value

namespace Struct

def ofJson (fields : Fields) : Struct := Value.ofFields fields

def toJson (s : Struct) : Fields := Value.toFields s

end Struct
end Courier
