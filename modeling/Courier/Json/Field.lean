import Courier.Base64
import Courier.Duration
import Courier.Form
import Courier.Http.Headers
import Courier.Json
/-!
Reading typed fields of a JSON object.  A field that is missing reads as `null`, which stands for
nothing: no text, an empty list, `false`.  A failure names the field that is wrong.
-/
namespace Courier.Json

inductive FieldError where
  | wrong (name : String)
  /-- A number is beyond what its kind can hold. -/
  | tooLarge
  deriving DecidableEq, Repr

abbrev Read (α : Type) := Except FieldError α

namespace Field

def wrong {α : Type} (name : String) : Read α := .error (.wrong name)

def get (j : Json) (name : String) : Json := (j.field? name).getD .null

def asText (name : String) : Json → Read String
  | .str s => .ok s
  | _ => wrong name

def text (j : Json) (name : String) : Read String := asText name (get j name)

def text? (j : Json) (name : String) : Read (Option String) :=
  match get j name with
  | .null => .ok none
  | v => (asText name v).map some

def textOr (j : Json) (name default : String) : Read String :=
  (text? j name).map fun s => s.getD default

def asInt (name : String) : Json → Read Int
  | .int n => .ok n
  | _ => wrong name

def int (j : Json) (name : String) : Read Int := asInt name (get j name)

def asNat (name : String) : Json → Read Nat
  | .int (.ofNat n) => .ok n
  | _ => wrong name

def nat (j : Json) (name : String) : Read Nat := asNat name (get j name)

def nat? (j : Json) (name : String) : Read (Option Nat) :=
  match get j name with
  | .null => .ok none
  | v => (asNat name v).map some

def natOr (j : Json) (name : String) (default : Nat) : Read Nat :=
  (nat? j name).map fun n => n.getD default

def flagOr (j : Json) (name : String) (default : Bool) : Read Bool :=
  match get j name with
  | .null => .ok default
  | .bool b => .ok b
  | _ => wrong name

def flag (j : Json) (name : String) : Read Bool := flagOr j name false

def asList (name : String) : Json → Read (List Json)
  | .arr items => .ok items
  | .null => .ok []
  | _ => wrong name

def list (j : Json) (name : String) : Read (List Json) := asList name (get j name)

def texts (j : Json) (name : String) : Read (List String) := do
  (← list j name).mapM (asText name)

def ints (j : Json) (name : String) : Read (List Int) := do (← list j name).mapM (asInt name)

def asFields (name : String) : Json → Read Fields
  | .obj f => .ok f
  | .null => .ok []
  | _ => wrong name

def fields (j : Json) (name : String) : Read Fields := asFields name (get j name)

/-- A table whose values are all read in one way. -/
def table {α : Type} (read : Json → Read α) (j : Json) (name : String) : Read (Table α) := do
  (← fields j name).mapM fun e => do return (e.1, ← read e.2)

def textTable (j : Json) (name : String) : Read (Table String) := table (asText name) j name

/-- Bytes are given as text, in base64, or as a text that repeats. -/
def asBytes (name : String) : Json → Read Bytes
  | .null => .ok []
  | .str s => .ok (Text.utf8 s)
  | j =>
    match j.field? "b64", j.field? "repeat" with
    | some (.str s), _ =>
      match Base64.decode? s with
      | some b => .ok b
      | none => wrong name
    | _, some (.arr [.str s, .int (.ofNat n)]) =>
      .ok ((List.replicate n (Text.utf8 s)).flatten)
    | _, _ => wrong name

def bytes (j : Json) (name : String) : Read Bytes := asBytes "bytes" (get j name)

def asUtf8 (name : String) (j : Json) : Read String := do
  match Text.ofUtf8? (← asBytes "bytes" j) with
  | some s => .ok s
  | none => wrong name

/-- Bytes that have to be text. -/
def utf8 (j : Json) (name : String) : Read String := asUtf8 name (get j name)

/-- Whole seconds, which have 64 bits, and nanoseconds. -/
def duration (j : Json) (name : String) : Read Duration :=
  match get j name with
  | .arr [.int (.ofNat s), .int (.ofNat n)] =>
    if s + n / Duration.perSecond < Word.size64 then .ok ⟨s * Duration.perSecond + n⟩
    else .error .tooLarge
  | _ => wrong name

def millis (j : Json) (name : String) : Read Duration := do return .ofMillis (← natOr j name 0)

def millis? (j : Json) (name : String) : Read (Option Duration) := do
  return (← nat? j name).map .ofMillis

def asPair (name : String) : Json → Read (String × String)
  | .arr [.str a, .str b] => .ok (a, b)
  | _ => wrong name

def pairs (j : Json) (name : String) : Read Form.Pairs := do
  (← list j name).mapM (asPair name)

def asWord32 (name : String) (j : Json) : Read UInt32 := do
  let n ← asNat name j
  if n < Word.size32 then .ok (UInt32.ofNat n) else wrong name

def word32? (j : Json) (name : String) : Read (Option UInt32) :=
  match get j name with
  | .null => .ok none
  | v => (asWord32 name v).map some

/-- Names and values in order, repeats included. -/
def headers (j : Json) (name : String) : Read Http.Headers := do
  (← list j name).mapM fun e =>
    match e with
    | .arr [.str n, v] => do
      let b ← asBytes "bytes" v
      match Http.headerName? n with
      | some n => if Http.isLegalValue b then .ok (n, b) else wrong name
      | none => wrong name
    | _ => wrong name

/-- A number in hexadecimal digits; a missing one is zero. -/
def hex (j : Json) (name : String) : Read Nat := do
  (← textOr j name "0").toList.foldlM (fun n c =>
    match Text.hexValue? c with
    | some d => .ok (n * 16 + d)
    | none => wrong name) 0

end Field
end Courier.Json
