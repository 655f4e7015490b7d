import Courier.Proofs.Context
import Courier.Proofs.Double.Value
import Courier.Proofs.Json.Places
import Courier.Proofs.Wire.Struct
/-!
What is left of a JSON value after it was a struct.  Only its numbers can change, each at its place: a whole
number below 2^53 in magnitude is an integer afterwards, whatever it was before, and every other number is the
double nearest to it.  A second time nothing changes, and nothing changes in what was read from any struct.
-/
namespace Courier

open Json (Formed IsInt Step WellFormed inner? reach? shape)

instance (n : Int) : Decidable (Whole n) := inferInstanceAs (Decidable ((n.natAbs : Int) < Value.wholeLimit))

namespace Value

/-! ### Numbers -/

theorem numberJson_of_infinite {x : Double} (infinite : x.isFinite = false) : numberJson x = .null := by
  rw [numberJson, infinite]
  rfl

/-- A finite double is read as the integer that it denotes, if that is below 2^53 in magnitude. -/
theorem numberJson_of_finite {x : Double} (finite : x.isFinite = true) :
    (∃ n : Int, x.value = n ∧ Whole n ∧ numberJson x = .int n) ∨
      (∀ n : Int, x.value = n → ¬ Whole n) ∧ numberJson x = .double x := by
  unfold numberJson
  rw [finite, Bool.not_true, if_neg Bool.false_ne_true]
  cases read : x.toInt? with
  | none =>
    refine .inr ⟨fun n denotes => ?_, rfl⟩
    rw [Double.toInt?_eq_some_iff.mpr ⟨finite, denotes⟩] at read
    cases read
  | some n =>
    have denotes := (Double.toInt?_eq_some_iff.mp read).2
    by_cases whole : Whole n
    · exact .inl ⟨n, denotes, whole, if_pos whole⟩
    · refine .inr ⟨fun k also => ?_, if_neg whole⟩
      obtain rfl : n = k := by exact_mod_cast denotes.symm.trans also
      exact whole

theorem numberJson_eq_int_iff {x : Double} {n : Int} :
    numberJson x = .int n ↔ x.isFinite = true ∧ x.value = n ∧ Whole n := by
  cases finite : x.isFinite with
  | false => simp [numberJson_of_infinite finite]
  | true =>
    rcases numberJson_of_finite finite with ⟨k, denotes, whole, read⟩ | ⟨other, read⟩
    · rw [read, denotes]
      constructor
      · rintro ⟨⟩
        exact ⟨rfl, rfl, whole⟩
      · rintro ⟨_, same, _⟩
        exact congrArg Json.int (by exact_mod_cast same)
    · rw [read]
      constructor
      · rintro ⟨⟩
      · rintro ⟨_, denotes, whole⟩
        exact absurd whole (other n denotes)

theorem numberJson_of_fractional {x : Double} (fractional : x.Fractional) : numberJson x = .double x := by
  rcases numberJson_of_finite fractional.finite with ⟨n, denotes, _, _⟩ | ⟨_, read⟩
  · exact absurd denotes (fractional.broken n)
  · exact read

/-- An integer that no significand holds stays behind as a double. -/
theorem numberJson_ofInt_long {n : Int} (kept : IsInt n) (long : ¬ Whole n) :
    numberJson (Double.ofInt n) = .double (Double.ofInt n) := by
  have filled : 2 * Double.fractionSize ≤ n.natAbs := by
    simp only [Whole, wholeLimit, Double.fractionSize] at long ⊢
    omega
  have fits : n.natAbs < Word.size64 := by
    obtain ⟨low, high⟩ := kept
    simp only [Json.lowestInt, Json.highestInt, Word.lowest64, Word.size64] at low high ⊢
    omega
  obtain ⟨finite, large⟩ := Double.ofInt_long filled fits
  rcases numberJson_of_finite finite with ⟨k, denotes, whole, _⟩ | ⟨_, read⟩
  · -- an integer below 2^53 is less than the double denotes
    rw [denotes] at large
    have magnitude : 2 * Double.fractionSize ≤ k.natAbs := by
      rw [← Int.cast_abs, ← Int.natCast_natAbs] at large
      exact_mod_cast large
    simp only [Whole, wholeLimit] at whole
    simp only [Double.fractionSize] at magnitude
    omega
  · exact read

theorem numberJson_ofInt_eq {n : Int} (kept : IsInt n) :
    numberJson (Double.ofInt n) = if Whole n then .int n else .double (Double.ofInt n) := by
  split
  · next whole => exact numberJson_ofInt whole
  · next long => exact numberJson_ofInt_long kept long

/-! ### Places -/

theorem inner?_numberJson (step : Step) (x : Double) : inner? step (numberJson x) = none := by
  cases finite : x.isFinite with
  | false =>
    rw [numberJson_of_infinite finite]
    cases step <;> rfl
  | true =>
    rcases numberJson_of_finite finite with ⟨n, _, _, read⟩ | ⟨_, read⟩ <;>
      · rw [read]
        cases step <;> rfl

theorem inner?_crossed (step : Step) (j : Json) : inner? step (crossed j) = (inner? step j).map crossed := by
  cases j with
  | null | bool | str => cases step <;> rfl
  | int n =>
    rw [crossed_int, inner?_numberJson]
    cases step <;> rfl
  | double x =>
    rw [crossed_double, inner?_numberJson]
    cases step <;> rfl
  | arr items =>
    rw [crossed_arr]
    cases step with
    | field key => rfl
    | item index => exact List.getElem?_map
  | obj fields =>
    rw [crossed_obj]
    cases step with
    | field key => exact Table.get?_mapValues crossed key fields
    | item index => rfl

/-- Each value stays at its place. -/
theorem reach?_crossed (place : List Step) (j : Json) :
    reach? place (crossed j) = (reach? place j).map crossed := by
  induction place generalizing j with
  | nil => rfl
  | cons step place ih =>
    rw [reach?, reach?, inner?_crossed]
    cases inner? step j with
    | none => rfl
    | some x => exact ih x

theorem shape_numberJson {x : Double} (finite : x.isFinite = true) : shape (numberJson x) = .number := by
  rcases numberJson_of_finite finite with ⟨n, _, _, read⟩ | ⟨_, read⟩ <;> rw [read] <;> rfl

theorem isFinite_ofInt {n : Int} (kept : IsInt n) : (Double.ofInt n).isFinite = true := by
  by_cases whole : Whole n
  · exact (numberJson_eq_int_iff.mp (numberJson_ofInt whole)).1
  · cases finite : (Double.ofInt n).isFinite with
    | true => rfl
    | false =>
      have read := numberJson_ofInt_long kept whole
      rw [numberJson_of_infinite finite] at read
      cases read

theorem shape_crossed {depth : Nat} {j : Json} (h : Formed (fun x => x.isFinite = true) depth j) :
    shape (crossed j) = shape j := by
  cases h with
  | null | bool | str => rfl
  | int kept => exact shape_numberJson (isFinite_ofInt kept)
  | double finite => exact shape_numberJson finite
  | arr each => rw [crossed_arr, shape, shape, List.length_map]
  | obj ordered each => rw [crossed_obj, shape, shape, Table.keys_mapValues]

/-- A value stays what it is if all its numbers do. -/
theorem crossed_of_settled {double : Double → Prop} {depth : Nat} {j : Json} (h : Formed double depth j)
    (integers : ∀ place n, reach? place j = some (.int n) → Whole n)
    (doubles : ∀ place x, reach? place j = some (.double x) → numberJson x = .double x) : crossed j = j := by
  induction h with
  | null | bool | str => rfl
  | int kept => exact numberJson_ofInt (integers [] _ rfl)
  | double exists_ => exact doubles [] _ rfl
  | arr each ih =>
    refine (crossed_arr _).trans (congrArg Json.arr ((List.map_congr_left fun x member => ?_).trans
      (List.map_id _)))
    obtain ⟨index, same⟩ := Json.reach?_item member
    exact ih x member (fun place n found => integers _ n ((same place).trans found))
      fun place y found => doubles _ y ((same place).trans found)
  | obj ordered each ih =>
    refine (crossed_obj _).trans (congrArg Json.obj (Table.mapValues_of_kept fun f member => ?_))
    have same := Json.reach?_field ordered member
    exact ih f member (fun place n found => integers _ n ((same place).trans found))
      fun place y found => doubles _ y ((same place).trans found)

/-! ### A second time -/

/-- What was read as a number is read as the same number again. -/
theorem crossed_numberJson (x : Double) : crossed (numberJson x) = numberJson x := by
  cases finite : x.isFinite with
  | false =>
    rw [numberJson_of_infinite finite]
    rfl
  | true =>
    rcases numberJson_of_finite finite with ⟨n, _, whole, read⟩ | ⟨_, read⟩
    · rw [read]
      exact numberJson_ofInt whole
    · rw [read]
      exact read

mutual

theorem crossed_toJson (v : Value) : crossed (toJson v) = toJson v := by
  cases v with
  | unset | null | bool | string => rfl
  | number x => exact crossed_numberJson x
  | list items => rw [toJson, crossed_arr, crossed_toItems items]
  | struct fields => rw [toJson, crossed_obj, crossed_toFields fields]
termination_by structural v

theorem crossed_toItems (vs : List Value) : (toItems vs).map crossed = toItems vs := by
  cases vs with
  | nil => rfl
  | cons v rest => rw [toItems, List.map_cons, crossed_toJson v, crossed_toItems rest]
termination_by structural vs

theorem crossed_toFields (es : List (String × Value)) :
    Table.mapValues crossed (toFields es) = toFields es := by
  cases es with
  | nil => rfl
  | cons e rest => exact congrArg₂ List.cons (crossed_toField e) (crossed_toFields rest)
termination_by structural es

theorem crossed_toField (e : String × Value) : ((toField e).1, crossed (toField e).2) = toField e := by
  obtain ⟨k, v⟩ := e
  exact Prod.ext rfl (crossed_toJson v)
termination_by structural e

end

/-! ### What is read from a struct is JSON -/

theorem formed_numberJson (x : Double) {depth : Nat} :
    Formed (fun x => x.isFinite = true) depth (numberJson x) := by
  cases finite : x.isFinite with
  | false =>
    rw [numberJson_of_infinite finite]
    exact .null
  | true =>
    rcases numberJson_of_finite finite with ⟨n, _, whole, read⟩ | ⟨_, read⟩
    · rw [read]
      exact .int whole.isInt
    · rw [read]
      exact .double finite

mutual

theorem wellFormed_toJson (v : Value) (sound : Wire.Sound v) : WellFormed (toJson v) := by
  cases v with
  | unset | null => exact ⟨0, .null⟩
  | bool b => exact ⟨0, .bool b⟩
  | string s => exact ⟨0, .str s⟩
  | number x => exact ⟨0, formed_numberJson x⟩
  | list items =>
    obtain ⟨depth, each⟩ := Formed.common id (wellFormed_toItems items sound)
    exact ⟨depth + 1, .arr each⟩
  | struct fields =>
    obtain ⟨depth, each⟩ := Formed.common Prod.snd (wellFormed_toFields fields sound.2)
    refine ⟨depth + 1, .obj ?_ each⟩
    rw [toFields_eq_map, Table.Ordered, Table.keys_mapValues]
    exact sound.1
termination_by structural v

theorem wellFormed_toItems (vs : List Value) (sound : Wire.SoundItems vs) :
    ∀ x ∈ toItems vs, WellFormed x := by
  cases vs with
  | nil => exact List.forall_mem_nil _
  | cons v rest =>
    intro x member
    rcases List.mem_cons.mp member with rfl | later
    · exact wellFormed_toJson v sound.1
    · exact wellFormed_toItems rest sound.2 x later
termination_by structural vs

theorem wellFormed_toFields (es : List (String × Value)) (sound : Wire.SoundEntries es) :
    ∀ f ∈ toFields es, WellFormed f.2 := by
  cases es with
  | nil => exact List.forall_mem_nil _
  | cons e rest =>
    intro f member
    rcases List.mem_cons.mp member with rfl | later
    · exact wellFormed_toField e sound.1
    · exact wellFormed_toFields rest sound.2 f later
termination_by structural es

theorem wellFormed_toField (e : String × Value) (sound : Wire.SoundEntry e) :
    WellFormed (toField e).2 := by
  obtain ⟨k, v⟩ := e
  exact wellFormed_toJson v sound
termination_by structural e

end

end Value

namespace Struct

open Value (crossed)

theorem obj_toJson_ofJson (fields : Fields) : Json.obj (toJson (ofJson fields)) = crossed (.obj fields) := by
  rw [toJson_ofJson_eq, Value.crossed_obj]

/-- What becomes of an object that goes through a struct: it has the same shape at every place, it stays what
it is if its numbers are integers below 2^53 in magnitude and doubles with a fraction, and a second time
nothing changes. -/
structure Passes (fields : Fields) : Prop where
  shape : ∀ place, (reach? place (.obj (toJson (ofJson fields)))).map Json.shape =
    (reach? place (.obj fields)).map Json.shape
  kept : (∀ place n, reach? place (.obj fields) = some (.int n) → Whole n) →
    (∀ place x, reach? place (.obj fields) = some (.double x) → x.Fractional) →
    toJson (ofJson fields) = fields
  settled : toJson (ofJson (toJson (ofJson fields))) = toJson (ofJson fields)

/-- An object that has been through a struct: it is well-formed and goes through again unchanged. -/
structure Settled (fields : Fields) : Prop where
  wellFormed : WellFormed (.obj fields)
  stable : toJson (ofJson fields) = fields

theorem stable_toJson (s : Struct) : toJson (ofJson (toJson s)) = toJson s :=
  Json.obj.inj ((obj_toJson_ofJson (toJson s)).trans (Value.crossed_toJson (.struct s)))

theorem toJson_settled {s : Struct} (sound : Wire.SoundStruct s) : Settled (toJson s) where
  wellFormed := Value.wellFormed_toJson (.struct s) ⟨sound.ordered, sound.entries⟩
  stable := stable_toJson s

/-- Every JSON object passes, and every struct settles: whatever its kinds and numbers, and so whatever bytes
it is read from. -/
theorem passage_settles :
    (∀ fields : Fields, WellFormed (.obj fields) → Passes fields) ∧
      (∀ s : Struct, Wire.SoundStruct s → Settled (toJson s)) ∧
      ∀ (budget : Nat) (b : Bytes) (s : Struct), Wire.mergeStruct budget [] b = some s →
        Settled (toJson s) := by
  refine ⟨?_, fun s sound => toJson_settled sound,
    fun budget b s read => toJson_settled (Wire.mergeStruct_sound read)⟩
  rintro fields ⟨depth, formed⟩
  refine ⟨fun place => ?_, fun integers doubles => ?_, stable_toJson _⟩
  · rw [obj_toJson_ofJson, Value.reach?_crossed]
    cases found : reach? place (.obj fields) with
    | none => rfl
    | some x => exact congrArg some (Value.shape_crossed (formed.reach found))
  · have same := Value.crossed_of_settled formed integers
      fun place x found => Value.numberJson_of_fractional (doubles place x found)
    exact Json.obj.inj ((obj_toJson_ofJson fields).trans same)

/-- An integer beyond 2^53, a whole double and one with a fraction. -/
def measured : Fields :=
  [("id", .int 9007199254740993), ("parts", .arr [.double ⟨0x4008000000000000⟩, .double ⟨0x3FE0000000000000⟩])]

/-- A value without a kind, nothing that is a number, an infinity, a negative zero and a null. -/
def odd : Struct :=
  [("blank", .unset), ("rest", .list [.number .nan, .number (.infinity true), .number (.zero true), .null 7])]

theorem measured_passes_odd_settles :
    (WellFormed (.obj measured) ∧ Passes measured) ∧
      Wire.SoundStruct odd ∧ Settled (toJson odd) ∧
        toJson odd = [("blank", .null), ("rest", .arr [.null, .null, .int 0, .null])] := by
  have keys : Table.Ordered measured ∧ Table.Ordered odd := by
    unfold Table.Ordered
    decide +kernel
  have formed : WellFormed (.obj measured) := by
    refine ⟨2, .obj keys.1 fun f member => ?_⟩
    simp only [measured, List.mem_cons, List.not_mem_nil, or_false] at member
    rcases member with rfl | rfl
    · exact .int (by unfold IsInt; decide)
    · refine .arr fun x member => ?_
      simp only [List.mem_cons, List.not_mem_nil, or_false] at member
      rcases member with rfl | rfl <;> exact .double (by decide)
  have sound : Wire.SoundStruct odd := ⟨keys.2, by simp [odd, Wire.SoundEntries, Wire.SoundEntry, Wire.Sound,
    Wire.SoundItems, Word.isSigned32]⟩
  have zero : Value.numberJson (.zero true) = .int 0 := by
    have significand : (Double.zero true).significand = 0 := by decide
    exact Value.numberJson_eq_int_iff.mpr ⟨by decide, by simp [Double.value, significand], by decide⟩
  have read : toJson odd = [("blank", .null),
      ("rest", .arr [Value.numberJson .nan, Value.numberJson (.infinity true), Value.numberJson (.zero true),
        .null])] := rfl
  rw [Value.numberJson_of_infinite (by decide), Value.numberJson_of_infinite (by decide), zero] at read
  exact ⟨⟨formed, passage_settles.1 measured formed⟩, sound, passage_settles.2.1 odd sound, read⟩

end Struct
end Courier
