import Courier.Duration
import Courier.Metrics
import Courier.Reply
/-!
The access log: one record for each request that was served, whichever transport carried it.  Each
record also counts in two series of the exposition text.  The record is `AccessRecord` with its `emit`;
what it counts is the series of `emit` as `get_metrics` renders them.
-/
namespace Courier

structure AccessRecord where
  transport : Transport
  method : String
  endpoint : String
  status : Nat
  elapsed : Duration
  requestId : String
  peer : Option String
  deriving Repr

inductive AccessLevel where
  | info | warn | error
  deriving DecidableEq, Repr

namespace AccessLevel

def text : AccessLevel → String
  | .info => "INFO"
  | .warn => "WARN"
  | .error => "ERROR"

end AccessLevel

namespace AccessRecord

/-- Trouble of the server is an error, a refusal a warning. -/
def level (r : AccessRecord) : AccessLevel :=
  if 500 ≤ r.status then .error else if 400 ≤ r.status then .warn else .info

def message : String := "request completed"

/-- A record without a peer shows a dash. -/
def peerText (r : AccessRecord) : String := r.peer.getD "-"

def labels (r : AccessRecord) : List (String × String) :=
  [("transport", r.transport.label), ("method", r.method), ("status", toString r.status)]

def totalSeries : String := "http_requests_total"

def durationSeries : String := "http_request_duration_seconds"

/-- Every record counts in two series. -/
def count (m : Metrics) (r : AccessRecord) : Metrics :=
  Metrics.count durationSeries r.labels (Metrics.count totalSeries r.labels m)

/-- Escaped for the exposition text.  Quotes and ends of line are escaped; a backslash is doubled unless
it already stands before another one or before a quote. -/
def escapeFrom (pending : Bool) : List Char → List Char
  | [] => if pending then ['\\', '\\'] else []
  | c :: rest =>
    if c == '\n' then '\\' :: 'n' :: escapeFrom pending rest
    else if c == '"' then '\\' :: '"' :: escapeFrom false rest
    else if c == '\\' then
      (if pending then ['\\', '\\'] else []) ++ escapeFrom (!pending) rest
    else (if pending then ['\\', '\\'] else []) ++ c :: escapeFrom false rest

def labelText (l : String × String) : String :=
  l.1 ++ "=\"" ++ String.ofList (escapeFrom false l.2.toList) ++ "\""

/-- The lines of the exposition text that a record adds one to. -/
def lines (r : AccessRecord) : List String :=
  let labels := "\x7b" ++ String.intercalate "," (r.labels.map labelText) ++ "\x7d"
  [durationSeries ++ "_count" ++ labels, totalSeries ++ labels]

/-- How much each line grows by some records. -/
def gained (records : List AccessRecord) : Table Nat :=
  (records.flatMap lines).foldl (fun t l => Table.insert l ((Table.get? l t).getD 0 + 1) t) []

end AccessRecord
end Courier
