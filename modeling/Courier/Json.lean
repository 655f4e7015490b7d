import Courier.Double
import Courier.Table
import Courier.Word
/-!
JSON values.  Integers are kept apart from other numbers, which are doubles; the fields of an object
form a `Table`, so equal objects have equal fields whatever order they were written in.
-/
namespace Courier

inductive Json where
  | null
  | bool (value : Bool)
  | int (value : Int)
  | double (value : Double)
  | str (value : String)
  | arr (items : List Json)
  | obj (fields : List (String × Json))
  deriving Repr, BEq, Inhabited

/-- The fields of a JSON object. -/
abbrev Fields := Table Json

namespace Json

/-- Integers that are kept as integers. -/
def lowestInt : Int := Word.lowest64

def highestInt : Int := (Word.size64 : Int) - 1

def isObject : Json → Bool
  | .obj _ => true
  | _ => false

/-- The field `key` of an object. -/
def field? (key : String) : Json → Option Json
  | .obj fields => Table.get? key fields
  | _ => none

def ofStrings (names : List String) : Json := .arr (names.map .str)

/-- An object from entries in any order. -/
def object (entries : List (String × Json)) : Json := .obj (Table.ofList entries)

def ofOption {α : Type} (f : α → Json) : Option α → Json
  | none => .null
  | some a => f a

end Json
end Courier
