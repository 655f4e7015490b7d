import Courier.Proofs.Json.RoundTrip
/-!
Places in a JSON value.  A place is the way to a value inside: names of fields and positions in arrays.
`Formed` says that every object is a table, every integer is one that is kept, and values nest within a
depth; what doubles there may be is left open.  Values without doubles are the plain ones.
-/
namespace Courier.Json

/-- One step inwards. -/
inductive Step where
  | field (key : String)
  | item (index : Nat)
  deriving DecidableEq, Repr

def inner? : Step → Json → Option Json
  | .field key, .obj fields => Table.get? key fields
  | .item index, .arr items => items[index]?
  | _, _ => none

/-- The value at a place. -/
def reach? : List Step → Json → Option Json
  | [], j => some j
  | step :: place, j => (inner? step j).bind (reach? place)

/-- What a value shows of itself apart from the value of a number: the names in an object and the length
of an array, but nothing further in. -/
inductive Shape where
  | null
  | bool (value : Bool)
  | number
  | str (value : String)
  | arr (length : Nat)
  | obj (keys : List String)
  deriving DecidableEq, Repr

def shape : Json → Shape
  | .null => .null
  | .bool b => .bool b
  | .int _ => .number
  | .double _ => .number
  | .str s => .str s
  | .arr items => .arr items.length
  | .obj fields => .obj (Table.keys fields)

/-- Values that exist as JSON, nesting at most `depth` deep, if `double` says which doubles exist. -/
inductive Formed (double : Double → Prop) : Nat → Json → Prop where
  | null {depth : Nat} : Formed double depth .null
  | bool {depth : Nat} (b : Bool) : Formed double depth (.bool b)
  | int {depth : Nat} {n : Int} (kept : IsInt n) : Formed double depth (.int n)
  | double {depth : Nat} {x : Double} (exists_ : double x) : Formed double depth (.double x)
  | str {depth : Nat} (s : String) : Formed double depth (.str s)
  | arr {depth : Nat} {items : List Json} (each : ∀ x ∈ items, Formed double depth x) :
      Formed double (depth + 1) (.arr items)
  | obj {depth : Nat} {fields : Fields} (ordered : Table.Ordered fields)
      (each : ∀ f ∈ fields, Formed double depth f.2) : Formed double (depth + 1) (.obj fields)

/-- Well-formed JSON: JSON has no infinities and nothing that is not a number. -/
def WellFormed (j : Json) : Prop := ∃ depth, Formed (fun x => x.isFinite = true) depth j

section

variable {double : Double → Prop} {depth : Nat} {j : Json}

theorem Formed.mono (h : Formed double depth j) {deeper : Nat} (le : depth ≤ deeper) :
    Formed double deeper j := by
  induction h generalizing deeper with
  | null => exact .null
  | bool b => exact .bool b
  | int kept => exact .int kept
  | double exists_ => exact .double exists_
  | str s => exact .str s
  | arr each ih =>
    obtain ⟨deeper, rfl⟩ : ∃ d, deeper = d + 1 := ⟨deeper - 1, by omega⟩
    exact .arr fun x member => ih x member (by omega)
  | obj ordered each ih =>
    obtain ⟨deeper, rfl⟩ : ∃ d, deeper = d + 1 := ⟨deeper - 1, by omega⟩
    exact .obj ordered fun f member => ih f member (by omega)

/-- Finitely many values nest within one depth. -/
theorem Formed.common {α : Type} (inside : α → Json) {l : List α}
    (each : ∀ a ∈ l, ∃ depth, Formed double depth (inside a)) :
    ∃ depth, ∀ a ∈ l, Formed double depth (inside a) := by
  induction l with
  | nil => exact ⟨0, by simp⟩
  | cons a rest ih =>
    obtain ⟨first, formed⟩ := each a (List.mem_cons_self ..)
    obtain ⟨others, all⟩ := ih fun b member => each b (List.mem_cons_of_mem _ member)
    refine ⟨max first others, fun b member => ?_⟩
    rcases List.mem_cons.mp member with rfl | later
    · exact formed.mono (Nat.le_max_left _ _)
    · exact (all b later).mono (Nat.le_max_right _ _)

theorem Formed.inner {step : Step} {x : Json} (h : Formed double depth j) (found : inner? step j = some x) :
    Formed double depth x := by
  cases h with
  | null | bool | int | double | str => cases step <;> cases found
  | arr each =>
    cases step with
    | field key => cases found
    | item index => exact (each x (List.mem_of_getElem? found)).mono (Nat.le_succ _)
  | obj ordered each =>
    cases step with
    | field key => exact (each _ (Table.mem_of_get? found)).mono (Nat.le_succ _)
    | item index => cases found

theorem Formed.reach {place : List Step} {x : Json} (h : Formed double depth j)
    (found : reach? place j = some x) : Formed double depth x := by
  induction place generalizing j with
  | nil => exact Option.some.inj found ▸ h
  | cons step place ih =>
    obtain ⟨y, next, rest⟩ := Option.bind_eq_some_iff.mp found
    exact ih (h.inner next) rest

/-- What holds at every place of an array holds at every place of its items. -/
theorem reach?_item {items : List Json} {x : Json} (member : x ∈ items) :
    ∃ index, ∀ place, reach? (.item index :: place) (.arr items) = reach? place x := by
  obtain ⟨index, found⟩ := List.getElem?_of_mem member
  refine ⟨index, fun place => ?_⟩
  rw [reach?, inner?, found, Option.bind_some]

theorem reach?_field {fields : Fields} (ordered : Table.Ordered fields) {f : String × Json}
    (member : f ∈ fields) (place : List Step) :
    reach? (.field f.1 :: place) (.obj fields) = reach? place f.2 := by
  rw [reach?, inner?, ordered.get?_of_mem member, Option.bind_some]

/-- Without doubles a value is plain. -/
theorem Formed.plain (h : Formed double depth j) (integral : ∀ place x, reach? place j ≠ some (.double x)) :
    Plain IsInt depth j := by
  induction h with
  | null => exact .null
  | bool b => exact .bool b
  | int kept => exact .int kept
  | @double _ x _ => exact absurd rfl (integral [] x)
  | str s => exact .str s
  | arr each ih =>
    refine .arr fun y member => ih y member fun place x => ?_
    obtain ⟨index, same⟩ := reach?_item member
    rw [← same]
    exact integral _ x
  | obj ordered each ih =>
    refine .obj ordered fun f member => ih f member fun place x => ?_
    rw [← reach?_field ordered member]
    exact integral _ x

end

theorem Plain.formed {whole : Int → Prop} (kept : ∀ n, whole n → IsInt n) {double : Double → Prop} {depth : Nat}
    {j : Json} (h : Plain whole depth j) : Formed double depth j := by
  induction h with
  | null => exact .null
  | bool b => exact .bool b
  | int ok => exact .int (kept _ ok)
  | str s => exact .str s
  | arr each ih => exact .arr ih
  | obj ordered each ih => exact .obj ordered ih

theorem Plain.integral {depth : Nat} {j : Json} (h : Plain IsInt depth j) (place : List Step) (x : Double) :
    reach? place j ≠ some (.double x) := by
  intro found
  have formed : Formed (fun _ => False) depth j := h.formed fun _ kept => kept
  cases formed.reach found with
  | double exists_ => exact exists_

end Courier.Json
