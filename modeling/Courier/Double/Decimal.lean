import Courier.Double.Shortest
import Courier.Text
/-!
Decimal numbers as people write them.  Reading rounds the exact value once; writing takes the fewest
digits that read back, always without an exponent.
-/
namespace Courier.Double

/-- Beyond these powers of ten every number is infinite or zero. -/
def greatestPower : Int := 310

def leastPower : Int := -330

/-- The number nearest to `digits · 10 ^ exponent`. -/
def ofDecimal (negative : Bool) (digits : Nat) (exponent : Int) : Double :=
  if digits = 0 then zero negative
  else
    let lead : Int := exponent + digitCount digits
    if greatestPower < lead then infinity negative
    else if lead < leastPower then zero negative
    else
      let s := scaled10 digits exponent
      ofRatio negative s.1 s.2
where
  scaled10 (digits : Nat) : Int → Nat × Nat
    | .ofNat e => (digits * Nat.pow 10 e, 1)
    | .negSucc e => (digits, Nat.pow 10 (e + 1))

/-- Digits with an optional sign, as an exponent has them. -/
def exponentOf? (s : List Char) : Option Int :=
  let (negative, ds) := match s with
    | '-' :: rest => (true, rest)
    | '+' :: rest => (false, rest)
    | _ => (false, s)
  if ds.isEmpty || !ds.all Text.isDigit then none
  else some (if negative then -(Text.natOfDigits ds : Int) else Text.natOfDigits ds)

/-- A number without a sign: digits with a point or without, and an exponent or none. -/
def unsigned? (negative : Bool) (s : List Char) : Option Double :=
  let word := s.map Char.toLower
  if word == "inf".toList || word == "infinity".toList then some (infinity negative)
  else if word == "nan".toList then some nan
  else
    let whole := s.takeWhile Text.isDigit
    let (fraction, tail) := match s.dropWhile Text.isDigit with
      | '.' :: rest => (rest.takeWhile Text.isDigit, rest.dropWhile Text.isDigit)
      | rest => ([], rest)
    if whole.isEmpty && fraction.isEmpty then none
    else
      let number (e : Int) : Double :=
        ofDecimal negative (Text.natOfDigits (whole ++ fraction)) (e - fraction.length)
      match tail with
      | [] => some (number 0)
      | c :: rest => if c == 'e' || c == 'E' then (exponentOf? rest).map number else none

/-- The number that a text is. -/
def ofText? (s : String) : Option Double :=
  match s.toList with
  | '-' :: rest => unsigned? true rest
  | '+' :: rest => unsigned? false rest
  | rest => unsigned? false rest

/-- Digits with a point where one is needed. -/
def plainChars (d : Decimal) : List Char :=
  let digits := Nat.toDigits 10 d.digits
  match d.exponent with
  | .ofNat e => digits ++ List.replicate e '0'
  | .negSucc e =>
    let places := e + 1
    let padded := List.replicate (places + 1 - digits.length) '0' ++ digits
    padded.take (padded.length - places) ++ '.' :: padded.drop (padded.length - places)

def plainText (x : Double) : String :=
  if x.isNaN then "NaN"
  else
    let body := if x.isInfinite then "inf".toList
      else if x.isZero then ['0']
      else plainChars x.shortest
    String.ofList (if x.isNegative then '-' :: body else body)

end Courier.Double
