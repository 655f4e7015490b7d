import Courier.Text
/-!
Form encoding of key and value pairs, as it stands behind the `?` of an address.  A blank is written as
a plus sign; letters, digits and `* - . _` stand for themselves and every other byte is a percent sign
with two digits.  Reading takes the pairs apart again.  `withQuery` is `endpoint_with_query`.
-/
namespace Courier.Form

/-- Ordered pairs; keys may repeat. -/
abbrev Pairs := List (String × String)

def isPlain (b : UInt8) : Bool :=
  (0x30 ≤ b && b ≤ 0x39) || (0x41 ≤ b && b ≤ 0x5A) || (0x61 ≤ b && b ≤ 0x7A)
    || b == 0x2A || b == 0x2D || b == 0x2E || b == 0x5F

/-- Percent sign and two digits in upper case. -/
def percentByte (b : UInt8) : List Char :=
  ['%', Text.upperHexDigit (b.toNat / 16), Text.upperHexDigit (b.toNat % 16)]

def encodeByte (b : UInt8) : List Char :=
  if isPlain b then [Char.ofNat b.toNat]
  else if b == 0x20 then ['+']
  else percentByte b

def encodeChars (s : String) : List Char := (Text.utf8 s).flatMap encodeByte

def pairChars (p : String × String) : List Char := encodeChars p.1 ++ '=' :: encodeChars p.2

/-- Pairs joined by ampersands. -/
def queryChars : Pairs → List Char
  | [] => []
  | [p] => pairChars p
  | p :: q :: rest => pairChars p ++ '&' :: queryChars (q :: rest)

def encode (pairs : Pairs) : String := String.ofList (queryChars pairs)

/-- The path, with the pairs behind a question mark if there are any. -/
def withQuery (path : String) (pairs : Pairs) : String :=
  match pairs with
  | [] => path
  | _ :: _ => path ++ "?" ++ encode pairs

/-- Undo percent signs that two hexadecimal digits follow; others stand for themselves. -/
def percentDecode : Bytes → Bytes
  | 0x25 :: a :: b :: rest =>
    match Text.hexValue? (Char.ofNat a.toNat), Text.hexValue? (Char.ofNat b.toNat) with
    | some x, some y => UInt8.ofNat (x * 16 + y) :: percentDecode rest
    | _, _ => 0x25 :: percentDecode (a :: b :: rest)
  | x :: rest => x :: percentDecode rest
  | [] => []

def decodeText (b : Bytes) : String :=
  Text.lossy (percentDecode (b.map fun x => if x == 0x2B then 0x20 else x))

/-- Pieces between occurrences of a byte. -/
def splitBytes (sep : UInt8) : Bytes → List Bytes
  | [] => [[]]
  | b :: rest =>
    if b == sep then [] :: splitBytes sep rest
    else
      match splitBytes sep rest with
      | [] => [[b]]
      | piece :: pieces => (b :: piece) :: pieces

/-- What stands before the first `sep`, and after it; all and nothing where there is none. -/
def cutAt (sep : UInt8) (b : Bytes) : Bytes × Bytes :=
  (b.takeWhile (· != sep), (b.dropWhile (· != sep)).drop 1)

/-- Pairs of a query; empty pieces are skipped, and a piece without `=` is a key alone. -/
def decode (query : Bytes) : Pairs :=
  ((splitBytes 0x26 query).filter fun p => !p.isEmpty).map fun p =>
    let kv := cutAt 0x3D p
    (decodeText kv.1, decodeText kv.2)

end Courier.Form
