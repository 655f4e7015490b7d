import Courier.Double.Decimal
import Courier.Json
/-!
What the notations for settings have in common: lines, blanks, and characters named by their number.
-/
namespace Courier.Document

abbrev Chars := List Char

def isSpaceOrTab (c : Char) : Bool := c == ' ' || c == '\t'

def skipSpaces (s : Chars) : Chars := s.dropWhile isSpaceOrTab

def trimSpaces (s : Chars) : Chars := Text.dropEndWhile isSpaceOrTab (skipSpaces s)

/-- Lines without their ends. -/
def lines (s : Chars) : List Chars :=
  (Text.splitOn '\n' s).map fun l => if l.getLast? == some '\r' then l.dropLast else l

/-- The character whose number stands in `count` hexadecimal digits, with what follows. -/
def hexChar? (count : Nat) (s : Chars) : Option (Char × Chars) := do
  let ds := s.take count
  if ds.length < count then none
  else
    let n ← ds.foldlM (fun n c => (Text.hexValue? c).map fun d => n * 16 + d) 0
    if n < 0xD800 || (0xE000 ≤ n && n < 0x110000) then some (Char.ofNat n, s.drop count) else none

/-- A whole number in some base, if it is a 64-bit one. -/
def wholeIn? (base : Nat) (negative : Bool) (ds : Chars) : Option Json := do
  if ds.isEmpty then none
  else
    let n ← ds.foldlM (fun n c => ((Text.hexValue? c).filter (· < base)).map fun d => n * base + d) 0
    let value : Int := if negative then -(n : Int) else n
    if Word.isSigned64 value then some (.int value) else none

end Courier.Document
