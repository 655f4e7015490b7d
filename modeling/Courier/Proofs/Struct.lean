import Courier.Struct
import Courier.Proofs.Double.Whole
import Courier.Proofs.Json.RoundTrip
/-!
Claims there and back as structs.  Every number becomes a double on the way; whole numbers below 2^53 in
magnitude are integers again when they are read, so values with no other numbers come back unchanged.  How
deep a value nests plays no part: arrays and objects are made anew of what their parts have become.
-/
namespace Courier

open Json (Plain)

/-- Whole numbers that a double holds and that are read as integers again. -/
def Whole (n : Int) : Prop := (n.natAbs : Int) < Value.wholeLimit

namespace Value

theorem numberJson_ofInt {n : Int} (h : Whole n) : numberJson (Double.ofInt n) = .int n := by
  have small : n.natAbs < 2 * Double.fractionSize := by
    simp only [Whole, wholeLimit, Double.fractionSize] at h ⊢
    omega
  obtain ⟨finite, back⟩ := Double.toInt?_ofInt small
  have kept : (n.natAbs : Int) < wholeLimit := h
  unfold numberJson
  rw [finite, back]
  simp only [Bool.not_true, Bool.false_eq_true, if_false, if_pos kept]

theorem toItems_eq_map (vs : List Value) : toItems vs = vs.map toJson := by
  induction vs with
  | nil => rfl
  | cons v rest ih => rw [toItems, ih, List.map_cons]

theorem toFields_eq_map (es : List (String × Value)) : toFields es = Table.mapValues toJson es := by
  induction es with
  | nil => rfl
  | cons e rest ih =>
    obtain ⟨k, v⟩ := e
    rw [toFields, ih]
    rfl

theorem ofItems_eq_map (xs : List Json) : ofItems xs = xs.map ofJson := by
  induction xs with
  | nil => rfl
  | cons x rest ih => rw [ofItems, ih, List.map_cons]

theorem ofFields_eq_map (fs : List (String × Json)) : ofFields fs = Table.mapValues ofJson fs := by
  induction fs with
  | nil => rfl
  | cons f rest ih =>
    obtain ⟨k, v⟩ := f
    rw [ofFields, ih]
    rfl

/-- What a value is after it was a part of a struct. -/
def crossed (j : Json) : Json := toJson (ofJson j)

@[simp] theorem crossed_int (n : Int) : crossed (.int n) = numberJson (Double.ofInt n) := rfl

@[simp] theorem crossed_double (x : Double) : crossed (.double x) = numberJson x := rfl

@[simp] theorem crossed_arr (items : List Json) : crossed (.arr items) = .arr (items.map crossed) := by
  rw [crossed, ofJson, toJson, toItems_eq_map, ofItems_eq_map, List.map_map]
  rfl

theorem toFields_ofFields (fields : Fields) : toFields (ofFields fields) = Table.mapValues crossed fields := by
  rw [toFields_eq_map, ofFields_eq_map, Table.mapValues_mapValues]
  rfl

@[simp] theorem crossed_obj (fields : Fields) :
    crossed (.obj fields) = .obj (Table.mapValues crossed fields) := by
  rw [crossed, ofJson, toJson, toFields_ofFields]

theorem crossed_of_plain {depth : Nat} {j : Json} (h : Plain Whole depth j) : crossed j = j := by
  induction h with
  | null | bool | str => rfl
  | int ok => exact numberJson_ofInt ok
  | arr each ih => rw [crossed_arr, List.map_congr_left ih, List.map_id']
  | obj ordered each ih => rw [crossed_obj, Table.mapValues_of_kept ih]

end Value

namespace Struct

theorem toJson_ofJson_eq (fields : Fields) :
    toJson (ofJson fields) = Table.mapValues Value.crossed fields :=
  Value.toFields_ofFields fields

theorem toJson_ofJson {depth : Nat} {fields : Fields} (h : Plain Whole depth (.obj fields)) :
    toJson (ofJson fields) = fields := by
  cases h with
  | obj ordered each =>
    rw [toJson_ofJson_eq]
    exact Table.mapValues_of_kept fun f member => Value.crossed_of_plain (each f member)

end Struct
end Courier
