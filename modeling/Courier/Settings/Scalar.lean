import Courier.Double.Decimal
import Courier.Json
/-!
How strictly the single values of settings are read.  Strict reading takes a value as what it is; lenient
reading also takes what can be understood as the value that is wanted, since a variable or a file may have
written a number as text, or a text as a number.
-/
namespace Courier.Settings

structure Scalars where
  text : Json → Option String
  /-- A number that fits a word of 64 bits. -/
  natural : Json → Option Nat
  integer : Json → Option Int

namespace Scalars

def strict : Scalars where
  text
    | .str s => some s
    | _ => none
  natural
    | .int (.ofNat n) => some n
    | _ => none
  integer
    | .int n => some n
    | _ => none

/-- The number that a word stands for. -/
def wordNumber? (s : String) : Option Nat :=
  let w := Text.lower s
  if w == "true" || w == "on" || w == "yes" then some 1
  else if w == "false" || w == "off" || w == "no" then some 0
  else none

def digits? (s : List Char) : Option Nat :=
  if s.isEmpty || !s.all Text.isDigit then none else some (Text.natOfDigits s)

/-- A whole number with an optional sign. -/
def signed? (s : String) : Option Int :=
  let found : Option Int := match s.toList with
    | '-' :: rest => (digits? rest).map fun n => -(n : Int)
    | '+' :: rest => (digits? rest).map Int.ofNat
    | rest => (digits? rest).map Int.ofNat
  found.filter Word.isSigned64

def unsigned? (s : String) : Option Nat :=
  let found := match s.toList with
    | '+' :: rest => digits? rest
    | rest => digits? rest
  found.filter fun n => n < Word.size64

/-- The nearest whole number within some bounds; what is no number counts as zero. -/
def rounded (low high : Int) (x : Double) : Int :=
  if x.isNaN then 0
  else if x.isInfinite then if x.isNegative then low else high
  else max low (min high x.roundAway)

def lenient : Scalars where
  text
    | .str s => some s
    | .bool true => some "true"
    | .bool false => some "false"
    | .int n => some (toString n)
    | .double x => some x.plainText
    | _ => none
  natural
    | .int (.ofNat n) => some n
    | .str s => (wordNumber? s).or (unsigned? s)
    | .bool b => some b.toNat
    | .double x => some (rounded 0 ((Word.size64 : Int) - 1) x).toNat
    | _ => none
  integer
    | .int n => some n
    | .str s => ((wordNumber? s).map Int.ofNat).or (signed? s)
    | .bool b => some b.toNat
    | .double x => some (rounded Word.lowest64 Word.highest64 x)
    | _ => none

end Scalars
end Courier.Settings
