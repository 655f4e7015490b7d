import Courier.Duration
import Courier.Text
/-!
Deadlines as they travel with a call: one to eight digits and a unit.  A writer takes the finest unit in
which the span, rounded down, has at most eight digits.  The reader is `parse_grpc_timeout`.
-/
namespace Courier.Rpc

inductive TimeUnit where
  | hour | minute | second | milli | micro | nano
  deriving DecidableEq, Repr

namespace TimeUnit

def nanos : TimeUnit → Nat
  | .hour => 3600 * Duration.perSecond
  | .minute => 60 * Duration.perSecond
  | .second => Duration.perSecond
  | .milli => Duration.perMilli
  | .micro => Duration.perMicro
  | .nano => 1

def symbol : TimeUnit → Char
  | .hour => 'H'
  | .minute => 'M'
  | .second => 'S'
  | .milli => 'm'
  | .micro => 'u'
  | .nano => 'n'

def ofSymbol? (c : Char) : Option TimeUnit :=
  [hour, minute, second, milli, micro, nano].find? fun u => u.symbol == c

end TimeUnit

namespace Deadline

/-- The metadata that carries a deadline. -/
def header : String := "grpc-timeout"

/-- What becomes of a text that should be a deadline.  The reader cuts off the last byte, so a
character of several bytes in the last place breaks it. -/
inductive Reading where
  | span (d : Duration)
  | malformed
  | broken
  deriving DecidableEq, Repr

def isAscii (c : Char) : Bool := c.toNat < 0x80

/-- Digits, then the unit. -/
def parse (raw : String) : Reading :=
  if raw.utf8ByteSize < 2 || 9 < raw.utf8ByteSize then .malformed
  else
    match raw.toList.reverse with
    | [] => .malformed
    | last :: front =>
      if !isAscii last then .broken
      else if !front.all Text.isDigit then .malformed
      else
        match TimeUnit.ofSymbol? last with
        | some unit => .span ⟨Text.natOfDigits front.reverse * unit.nanos⟩
        | none => .malformed

/-- The largest count that is written. -/
def countLimit : Nat := 99999999

/-- From the finest unit to the coarsest. -/
def units : List TimeUnit := [.nano, .micro, .milli, .second, .minute, .hour]

/-- The text for a span; spans of too many hours have none. -/
def write? (d : Duration) : Option String :=
  (units.find? fun u => d.nanos / u.nanos ≤ countLimit).map fun u =>
    String.ofList (Nat.toDigits 10 (d.nanos / u.nanos) ++ [u.symbol])

end Deadline
end Courier.Rpc
