/-!
Spans of time in whole nanoseconds.  The text of a span is in the largest of `s`, `ms`, `µs` and
`ns` that it reaches, with as many decimals as it needs.
-/
namespace Courier

structure Duration where
  nanos : Nat
  deriving DecidableEq, Repr, Inhabited

/-- A point in time, in nanoseconds since a common start. -/
abbrev Instant := Nat

namespace Duration

def zero : Duration := ⟨0⟩

def perSecond : Nat := 1000000000

def perMilli : Nat := 1000000

def perMicro : Nat := 1000

def ofSeconds (n : Nat) : Duration := ⟨n * perSecond⟩

def ofMillis (n : Nat) : Duration := ⟨n * perMilli⟩

def seconds (d : Duration) : Nat := d.nanos / perSecond

/-- What is left beyond the whole seconds. -/
def subsecond (d : Duration) : Nat := d.nanos % perSecond

def add (a b : Duration) : Duration := ⟨a.nanos + b.nanos⟩

/-- How long ago `since` was at `now`. -/
def elapsed (since now : Instant) : Duration := ⟨now - since⟩

def le (a b : Duration) : Bool := a.nanos ≤ b.nanos

def lt (a b : Duration) : Bool := a.nanos < b.nanos

/-- Decimals of `part / scale`, where `scale` is a power of ten, without zeros at the end. -/
def decimals (part scale : Nat) : List Char :=
  let all := (Nat.toDigits 10 (scale + part)).drop 1
  (all.reverse.dropWhile (· == '0')).reverse

def inUnit (d : Duration) (scale : Nat) (unit : List Char) : String :=
  let point := match decimals (d.nanos % scale) scale with
    | [] => []
    | ds => '.' :: ds
  String.ofList (Nat.toDigits 10 (d.nanos / scale) ++ point ++ unit)

def text (d : Duration) : String :=
  if perSecond ≤ d.nanos then d.inUnit perSecond ['s']
  else if perMilli ≤ d.nanos then d.inUnit perMilli ['m', 's']
  else if perMicro ≤ d.nanos then d.inUnit perMicro ['µ', 's']
  else d.inUnit 1 ['n', 's']

end Duration
end Courier
