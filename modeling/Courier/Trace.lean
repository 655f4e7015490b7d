import Courier.Context
/-!
Trace context.  A span has the ids of its trace and of itself, flags and a vendor state; when both ids
are set it is written into the headers of outbound calls.  Here are `current_traceparent`,
`inject_trace_context` and `inject_trace_headers`.
-/
namespace Courier

structure Span where
  traceId : Nat
  spanId : Nat
  flags : Nat
  state : String
  deriving DecidableEq, Repr

namespace Trace

def parentHeader : String := "traceparent"

def stateHeader : String := "tracestate"

/-- Ids of zero are no ids. -/
def isValid (s : Span) : Bool := s.traceId != 0 && s.spanId != 0

/-- Hexadecimal digits, filled with zeros to `width`. -/
def hex (width n : Nat) : List Char :=
  let digits := Nat.toDigits 16 n
  List.replicate (width - digits.length) '0' ++ digits

def parentText (s : Span) : String :=
  String.ofList ('0' :: '0' :: '-' :: hex 32 s.traceId ++ '-' :: hex 16 s.spanId
    ++ '-' :: hex 2 s.flags)

/-- The flag of a sampled span. -/
def sampledFlag : Nat := 1

/-- A new span.  Under a parent it belongs to the parent's trace, and if it is sampled it keeps the
parent's flags and state. -/
def start (sampled : Bool) (traceId spanId : Nat) : Option Span → Span
  | none => ⟨traceId, spanId, if sampled then sampledFlag else 0, ""⟩
  | some p =>
    if sampled then ⟨p.traceId, spanId, p.flags ||| sampledFlag, p.state⟩
    else ⟨p.traceId, spanId, 0, ""⟩

/-- What the active span says of itself; an empty state is left out. -/
def current (active : Option Span) : Option (String × Option String) :=
  active.bind fun s =>
    if isValid s then some (parentText s, if s.state == "" then none else some s.state) else none

def inject (active : Option Span) (h : Http.Headers) : Http.Headers :=
  match current active with
  | none => h
  | some (parent, none) => h.tryInsertText parentHeader parent
  | some (parent, some state) =>
    (h.tryInsertText parentHeader parent).tryInsertText stateHeader state

/-- The active span and the correlation id, if that is a legal value. -/
def injectWithId (active : Option Span) (requestId : String) (h : Http.Headers) : Http.Headers :=
  (inject active h).tryInsertText Context.requestIdHeader requestId

end Trace
end Courier
