import Courier.Text
/-!
Base 64.  Three bytes become four characters of an alphabet.  The padded form fills the last group
with `=`, the bare form leaves it short; both readers accept only what the writer of the same form
produces, so unused bits must be zero.
-/
namespace Courier.Base64

inductive Alphabet where
  | standard | urlSafe
  deriving DecidableEq, Repr

def Alphabet.symbol (a : Alphabet) (n : Nat) : Char :=
  if n < 26 then Char.ofNat (65 + n)
  else if n < 52 then Char.ofNat (97 + (n - 26))
  else if n < 62 then Char.ofNat (48 + (n - 52))
  else match a with
    | .standard => if n == 62 then '+' else '/'
    | .urlSafe => if n == 62 then '-' else '_'

def Alphabet.value? (a : Alphabet) (c : Char) : Option Nat :=
  if 'A' ≤ c && c ≤ 'Z' then some (c.toNat - 65)
  else if 'a' ≤ c && c ≤ 'z' then some (c.toNat - 97 + 26)
  else if '0' ≤ c && c ≤ '9' then some (c.toNat - 48 + 52)
  else if c == a.symbol 62 then some 62
  else if c == a.symbol 63 then some 63
  else none

/-- Symbols of a group; `pad` fills a short last group. -/
def encodeChars (a : Alphabet) (pad : Bool) : Bytes → List Char
  | [] => []
  | [x] =>
    let n := x.toNat * 16
    [a.symbol (n / 64), a.symbol (n % 64)] ++ if pad then ['=', '='] else []
  | [x, y] =>
    let n := (x.toNat * 256 + y.toNat) * 4
    [a.symbol (n / 4096), a.symbol (n / 64 % 64), a.symbol (n % 64)] ++ if pad then ['='] else []
  | x :: y :: z :: rest =>
    let n := (x.toNat * 256 + y.toNat) * 256 + z.toNat
    a.symbol (n / 262144) :: a.symbol (n / 4096 % 64) :: a.symbol (n / 64 % 64)
      :: a.symbol (n % 64) :: encodeChars a pad rest

def byte (n : Nat) : UInt8 := UInt8.ofNat n

/-- A last group of two symbols holds one byte. -/
def decodePair? (a : Alphabet) (c d : Char) : Option Bytes :=
  match a.value? c, a.value? d with
  | some x, some y => if y % 16 == 0 then some [byte ((x * 64 + y) / 16)] else none
  | _, _ => none

/-- A last group of three symbols holds two bytes. -/
def decodeTriple? (a : Alphabet) (c d e : Char) : Option Bytes :=
  match a.value? c, a.value? d, a.value? e with
  | some x, some y, some z =>
    let n := (x * 64 + y) * 64 + z
    if z % 4 == 0 then some [byte (n / 1024), byte (n / 4 % 256)] else none
  | _, _, _ => none

def decodeChars? (a : Alphabet) (pad : Bool) : List Char → Option Bytes
  | [] => some []
  | [_] => none
  | [c, d] => if pad then none else decodePair? a c d
  | [c, d, e] => if pad then none else decodeTriple? a c d e
  | c :: d :: e :: f :: rest =>
    if pad && rest.isEmpty && f == '=' then
      if e == '=' then decodePair? a c d else decodeTriple? a c d e
    else
      match a.value? c, a.value? d, a.value? e, a.value? f with
      | some w, some x, some y, some z =>
        let n := ((w * 64 + x) * 64 + y) * 64 + z
        (decodeChars? a pad rest).map fun r =>
          byte (n / 65536) :: byte (n / 256 % 256) :: byte (n % 256) :: r
      | _, _, _, _ => none

/-- Padded, in the standard alphabet. -/
def encode (b : Bytes) : String := String.ofList (encodeChars .standard true b)

def decode? (s : String) : Option Bytes := decodeChars? .standard true s.toList

/-- Bare, in the alphabet that is safe in addresses. -/
def encodeUrl (b : Bytes) : String := String.ofList (encodeChars .urlSafe false b)

def decodeUrl? (s : String) : Option Bytes := decodeChars? .urlSafe false s.toList

end Courier.Base64
