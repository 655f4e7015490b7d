/-!
Tables keyed by text.  A table is a list of entries in ascending order of key, each key once; the
order is that of code points, which is also the order of UTF-8 bytes.  `insert` replaces the value
of a key that is there.
-/
namespace Courier

abbrev Table (α : Type) := List (String × α)

namespace Table

variable {α β : Type}

def get? (key : String) : Table α → Option α
  | [] => none
  | (k, v) :: rest => if k = key then some v else get? key rest

def insert (key : String) (value : α) : Table α → Table α
  | [] => [(key, value)]
  | (k, v) :: rest =>
    if key = k then (key, value) :: rest
    else if key < k then (key, value) :: (k, v) :: rest
    else (k, v) :: insert key value rest

def erase (key : String) (t : Table α) : Table α := t.filter fun e => e.1 != key

def has (key : String) (t : Table α) : Bool := (get? key t).isSome

/-- Later entries win. -/
def ofList (entries : List (String × α)) : Table α :=
  entries.foldl (fun t e => insert e.1 e.2 t) []

def mapValues (f : α → β) (t : Table α) : Table β := t.map fun e => (e.1, f e.2)

def keys (t : Table α) : List String := t.map Prod.fst

/-- Keys ascend strictly. -/
def Ordered (t : Table α) : Prop := (keys t).Pairwise (· < ·)

/-- A set of names: ascending and without repeats. -/
def nameSet (names : List String) : List String := keys (ofList (names.map fun n => (n, ())))

end Table
end Courier
