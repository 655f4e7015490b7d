import Courier.Double.Decimal
import Courier.Settings.Scalar
import Courier.Table
/-!
Settings in environment variables.  The variables of interest have a common opening; two underscores in
what follows it go one level down.  Values are truth values and numbers where they can be, lists of names
where lists are wanted, and text otherwise.
-/
namespace Courier.Settings

/-- Variables in the order in which they were set. -/
abbrev Variables := List (String × String)

namespace Variables

def opening : String := "app__"

def levelMark : String := "__"

/-- Keys whose values are lists, items parted by commas. -/
def listKeys : List String := ["connections", "required_connections"]

def truth? (s : String) : Option Bool :=
  if Text.lower s == "true" then some true
  else if Text.lower s == "false" then some false
  else none

def valueOf (key value : String) : Json :=
  match truth? value with
  | some b => .bool b
  | none =>
    match Scalars.signed? value with
    | some n => .int n
    | none =>
      match Double.ofText? value with
      | some x => .double x
      | none =>
        if listKeys.contains key then
          .arr ((Text.splitOn ',' value.toList).map fun item => .str (String.ofList item))
        else .str value

/-- The entry of one variable, if it is of interest. -/
def entry? (v : String × String) : Option (String × Json) :=
  (Text.dropStart? (Text.lower v.1) opening).map fun rest =>
    let key := Text.replace rest levelMark "."
    (key, valueOf key v.2)

/-- The source that some variables make. -/
def source (vs : Variables) : Fields := Table.ofList (vs.filterMap entry?)

end Variables
end Courier.Settings
