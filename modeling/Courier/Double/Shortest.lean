import Courier.Double
/-!
Shortest decimal text.  Of the decimals that read back as a given number, `shortest` takes one with
the fewest digits, and of those the nearest.  Reading back means lying in the interval of rationals
that round to the number; its ends count when the significand is even.
-/
namespace Courier.Double

/-- `digits · 10 ^ exponent`. -/
structure Decimal where
  digits : Nat
  exponent : Int
  deriving DecidableEq, Repr

def digitCount (n : Nat) : Nat := (Nat.toDigits 10 n).length

/-- The exponent of the leading decimal digit of `num / den`, which is positive. -/
def leadingExponent (num den : Nat) : Int :=
  if den ≤ num then (digitCount (num / den) : Int) - 1
  else
    let c := (den + num - 1) / num
    if c ≤ 1 then 0 else -(digitCount (c - 1) : Int)

/-- `num / den` in units of `10 ^ k`. -/
def inUnits (num den : Nat) (k : Int) : Nat × Nat :=
  match k with
  | .ofNat j => (num, den * Nat.pow 10 j)
  | .negSucc j => (num * Nat.pow 10 (j + 1), den)

/-- The multiple of `10 ^ k` nearest to `value` among its two neighbours that lie between `low` and
`high`.  All three are numerators over `den`. -/
def gridPoint? (low value high den : Nat) (closed : Bool) (k : Int) : Option Nat :=
  let v := inUnits value den k
  let inside (n : Nat) : Bool :=
    let lo := inUnits low den k
    let hi := inUnits high den k
    if closed then lo.1 ≤ n * lo.2 && n * hi.2 ≤ hi.1 else lo.1 < n * lo.2 && n * hi.2 < hi.1
  let below := v.1 / v.2
  let above := below + 1
  match inside below, inside above with
  | true, true =>
    let r := v.1 % v.2
    if v.2 < 2 * r || (2 * r == v.2 && below % 2 == 1) then some above else some below
  | true, false => some below
  | false, true => some above
  | false, false => none

/-- The first grid from `top` downwards that has a point in the interval. -/
def firstGrid (low value high den : Nat) (closed : Bool) (top : Int) : Nat → Decimal
  | 0 => ⟨value / den, 0⟩
  | n + 1 =>
    match gridPoint? low value high den closed top with
    | some d => ⟨d, top⟩
    | none => firstGrid low value high den closed (top - 1) n

/-- Trailing zeros move into the exponent. -/
def stripZeros (d : Decimal) : Nat → Decimal
  | 0 => d
  | n + 1 => if d.digits != 0 && d.digits % 10 == 0 then stripZeros ⟨d.digits / 10, d.exponent + 1⟩ n
    else d

/-- Shortest decimal of the magnitude of a finite number other than zero. -/
def shortest (x : Double) : Decimal :=
  let m := x.significand
  let s := scaled 1 4 (-x.exponent)
  let narrow := m == fractionSize && 1 < x.biased
  let low := (4 * m - (if narrow then 1 else 2)) * s.1
  let high := (4 * m + 2) * s.1
  let value := 4 * m * s.1
  let top := leadingExponent value s.2
  stripZeros (firstGrid low value high s.2 (m % 2 == 0) top 18) 20

end Courier.Double
