import Courier.Table
/-!
Counts kept while a service runs.  A series is a name with labels; it holds a count of events or of
samples, or the value last set.
-/
namespace Courier

/-- One number for each series, by the text of the series. -/
abbrev Metrics := Table Nat

namespace Metrics

abbrev Labels := List (String × String)

/-- Labels in ascending order of their names. -/
def series (name : String) (labels : Labels) : String :=
  name ++ "\x7b"
    ++ String.intercalate "," ((Table.ofList labels).map fun l => l.1 ++ "=" ++ l.2) ++ "\x7d"

def value (name : String) (labels : Labels) (m : Metrics) : Nat :=
  (Table.get? (series name labels) m).getD 0

/-- One event more, or one sample. -/
def count (name : String) (labels : Labels) (m : Metrics) : Metrics :=
  Table.insert (series name labels) (value name labels m + 1) m

def set (name : String) (labels : Labels) (n : Nat) (m : Metrics) : Metrics :=
  Table.insert (series name labels) n m

end Metrics
end Courier
