/-!
Binary floating-point numbers of 64 bits, as bit patterns with exact arithmetic.  A finite number
is `± significand · 2 ^ exponent`; every operation computes the exact rational result and rounds it
once, to nearest with ties to even.
-/
namespace Courier

structure Double where
  bits : UInt64
  deriving DecidableEq, Repr, Inhabited

namespace Double

/-- Two to the 52nd. -/
def fractionSize : Nat := 4503599627370496

/-- Two to the 63rd, where the sign stands. -/
def signPlace : Nat := 9223372036854775808

/-- Everything but the sign. -/
def magnitude (x : Double) : Nat := x.bits.toNat % signPlace

def isNegative (x : Double) : Bool := signPlace ≤ x.bits.toNat

def biased (x : Double) : Nat := x.magnitude / fractionSize

def fraction (x : Double) : Nat := x.magnitude % fractionSize

def isFinite (x : Double) : Bool := x.biased < 2047

def isNaN (x : Double) : Bool := x.biased == 2047 && x.fraction != 0

def isInfinite (x : Double) : Bool := x.biased == 2047 && x.fraction == 0

def significand (x : Double) : Nat :=
  if x.biased = 0 then x.fraction else fractionSize + x.fraction

def exponent (x : Double) : Int :=
  if x.biased = 0 then -1074 else (x.biased : Int) - 1075

/-- The pattern with the given sign and magnitude. -/
def ofParts (negative : Bool) (magnitude : Nat) : Double :=
  ⟨UInt64.ofNat ((if negative then signPlace else 0) + magnitude)⟩

def zero (negative : Bool) : Double := ofParts negative 0

def infinity (negative : Bool) : Double := ofParts negative (2047 * fractionSize)

def nan : Double := ofParts false (2047 * fractionSize + fractionSize / 2)

def negate (x : Double) : Double := ofParts (!x.isNegative) x.magnitude

/-- Nearest natural number to `num / den`, ties to even. -/
def roundHalfEven (num den : Nat) : Nat :=
  let q := num / den
  let r := num % den
  if den < 2 * r || (2 * r == den && q % 2 == 1) then q + 1 else q

/-- Numerator and denominator of `num / den · 2 ^ (-shift)`. -/
def scaled (num den : Nat) (shift : Int) : Nat × Nat :=
  match shift with
  | .ofNat k => (num, den * Nat.pow 2 k)
  | .negSucc k => (num * Nat.pow 2 (k + 1), den)

/-- The number nearest to `num / den`; overflow gives an infinity. -/
def ofRatio (negative : Bool) (num den : Nat) : Double :=
  if num = 0 then zero negative
  else
    let guess : Int := (num.log2 : Int) - den.log2 - 52
    let probe := scaled num den guess
    let exact := if probe.1 / probe.2 < fractionSize then guess - 1 else guess
    let e := max exact (-1074)
    let s := scaled num den e
    let magnitude := (e + 1074).toNat * fractionSize + roundHalfEven s.1 s.2
    if 2047 * fractionSize ≤ magnitude then infinity negative else ofParts negative magnitude

def ofNat (n : Nat) : Double := ofRatio false n 1

def ofInt (n : Int) : Double := ofRatio (n < 0) n.natAbs 1

/-- Product of finite numbers. -/
def mul (x y : Double) : Double :=
  let s := scaled (x.significand * y.significand) 1 (-(x.exponent + y.exponent))
  ofRatio (x.isNegative != y.isNegative) s.1 s.2

/-- Quotient of finite numbers, the divisor not zero. -/
def div (x y : Double) : Double :=
  let s := scaled x.significand y.significand (y.exponent - x.exponent)
  ofRatio (x.isNegative != y.isNegative) s.1 s.2

def pow10 (n : Nat) : Double := ofNat (Nat.pow 10 n)

def isZero (x : Double) : Bool := x.magnitude == 0

/-- The integer that a finite number is, if it is one. -/
def toInt? (x : Double) : Option Int :=
  if !x.isFinite then none
  else
    let s := scaled x.significand 1 (-x.exponent)
    if s.1 % s.2 == 0 then
      some (if x.isNegative then -((s.1 / s.2 : Nat) : Int) else ((s.1 / s.2 : Nat) : Int))
    else none

/-- Nearest integer to a finite number, halves away from zero. -/
def roundAway (x : Double) : Int :=
  let s := scaled x.significand 1 (-x.exponent)
  let n : Nat := (2 * s.1 + s.2) / (2 * s.2)
  if x.isNegative then -(n : Int) else n

end Double
end Courier
