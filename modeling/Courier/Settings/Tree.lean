import Courier.Json
import Courier.Text
/-!
Putting settings together from several sources.  Letter case does not matter in a key: keys are kept in
lower case on every level.  A later source replaces single values and adds to objects; the key of an
entry may be a path with dots.
-/
namespace Courier.Settings

abbrev Tree := Json

namespace Tree

def entries : Tree → Fields
  | .obj fields => fields
  | _ => []

/-- What is there under a key; an empty object where nothing is. -/
def child (key : String) (t : Tree) : Tree := (Table.get? (Text.lower key) t.entries).getD (.obj [])

/-- A value that is no object makes room for one. -/
def putChild (key : String) (value t : Tree) : Tree :=
  .obj (Table.insert (Text.lower key) value t.entries)

mutual

/-- `old` with a value put over it. -/
def cover (old : Tree) : Json → Tree
  | .null => .null
  | .bool b => .bool b
  | .int n => .int n
  | .double x => .double x
  | .str s => .str s
  | .arr items => .arr items
  | .obj fields => coverAll old fields
termination_by structural j => j

def coverAll (old : Tree) : List (String × Json) → Tree
  | [] => old
  | f :: fs => coverAll (coverOne old f) fs
termination_by structural l => l

def coverOne (old : Tree) : String × Json → Tree
  | (k, v) => putChild k (cover (child k old) v) old
termination_by structural f => f

end

/-- Put a value at the end of a path. -/
def putPath (value : Json) (t : Tree) : List String → Tree
  | [] => t
  | [key] => coverOne t (key, value)
  | key :: path => putChild key (putPath value (child key t) path) t

def isPathChar (c : Char) : Bool :=
  Text.isLetter c || Text.isDigit c || c == '_' || c == '-' || c == ' '

/-- The names along a path; a key that is no path is a name of its own. -/
def pathOf (key : String) : List String :=
  let names := Text.splitOn '.' key.toList
  if names.all fun n => !n.isEmpty && n.all isPathChar then names.map String.ofList else [key]

/-- A source over what is there, entry by entry. -/
def addSource (t : Tree) (source : Fields) : Tree :=
  source.foldl (fun t e => putPath e.2 t (pathOf e.1)) t

end Tree
end Courier.Settings
