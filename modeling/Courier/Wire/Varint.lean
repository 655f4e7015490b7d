import Courier.Text
import Courier.Word
/-!
Numbers of variable length: seven bits a byte, lowest first, and the high bit says that more follow.  A
number of 64 bits takes at most ten bytes, of which the last holds one bit.
-/
namespace Courier.Wire

def groupLimit : Nat := 10

/-- At most `groups + 1` groups. -/
def varintGroups : Nat → Nat → Bytes
  | 0, n => [UInt8.ofNat n]
  | groups + 1, n =>
    if n < 128 then [UInt8.ofNat n] else UInt8.ofNat (n % 128 + 128) :: varintGroups groups (n / 128)

def varint (n : Nat) : Bytes := varintGroups (groupLimit - 1) n

/-- Read at most `groups + 1` groups; the last of ten may hold one bit only. -/
def readGroups? : Nat → Bytes → Option (Nat × Bytes)
  | _, [] => none
  | 0, b :: rest => if b < 2 then some (b.toNat, rest) else none
  | groups + 1, b :: rest =>
    if b < 128 then some (b.toNat, rest)
    else (readGroups? groups rest).map fun r => (b.toNat - 128 + 128 * r.1, r.2)

def readVarint? (b : Bytes) : Option (Nat × Bytes) := readGroups? (groupLimit - 1) b

/-- A signed number of 32 bits, extended to a word. -/
def wordOfInt (n : Int) : Nat := (n % (Word.size64 : Int)).toNat

/-- The low 32 bits of a word as a signed number. -/
def int32OfWord (n : Nat) : Int := Int.bmod n Word.size32

/-- Bytes of a word, lowest first. -/
def littleEndian : Nat → Nat → Bytes
  | 0, _ => []
  | count + 1, n => UInt8.ofNat (n % 256) :: littleEndian count (n / 256)

def ofLittleEndian (b : Bytes) : Nat := b.foldr (fun x n => x.toNat + 256 * n) 0

end Courier.Wire
