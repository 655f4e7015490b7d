import Courier.Proofs.Json.Places
/-!
What the reader makes of any input.  A value that was read is formed as values are: its objects are tables,
whatever names the text repeats and in whatever order it has them, its integers are those that are kept, and
it nests no deeper than was allowed.  So it is plain if it holds no double, and its own text gives it back.
-/
namespace Courier.Json

/-- Formed, with whatever doubles there may be. -/
abbrev Legible (depth : Nat) (j : Json) : Prop := Formed (fun _ => True) depth j

theorem Numeral.value?_legible {num : Numeral} {v : Json} (read : num.value? = some v) (depth : Nat) :
    Legible depth v := by
  unfold Numeral.value? at read
  dsimp only at read
  generalize (if num.negative then -(natOf num.whole : Int) else natOf num.whole) = signed at read
  split at read
  · next integral =>
    simp only [Bool.and_eq_true, decide_eq_true_eq] at integral
    cases read
    exact .int ⟨integral.1.1.2, integral.1.2⟩
  · obtain ⟨x, _, rfl⟩ := Option.map_eq_some_iff.mp read
    exact .double trivial

/-- Fields that were read so far: a table of values. -/
structure LegibleFields (depth : Nat) (fields : Fields) : Prop where
  ordered : Table.Ordered fields
  each : ∀ f ∈ fields, Legible depth f.2

theorem LegibleFields.insert {depth : Nat} {fields : Fields} (h : LegibleFields depth fields) (key : String)
    {v : Json} (legible : Legible depth v) : LegibleFields depth (Table.insert key v fields) where
  ordered := h.ordered.insert key v
  each := by
    intro f member
    rcases Table.mem_insert member with rfl | before
    · exact legible
    · exact h.each f before

theorem legible_of_map {α : Type} {found : Option α} {make : α → Json × Bytes} {depth : Nat} {v : Json}
    {rest : Bytes} (read : found.map make = some (v, rest))
    (each : ∀ a, found = some a → Legible depth (make a).1) : Legible depth v := by
  obtain ⟨a, present, same⟩ := Option.map_eq_some_iff.mp read
  have legible := each a present
  rwa [same] at legible

/-- What the readers make of any input with this much fuel. -/
structure ReadsLegibly (n : Nat) : Prop where
  value : ∀ {depth input v rest}, value? n depth input = some (v, rest) → Legible depth v
  items : ∀ {depth acc input xs rest}, items? n depth acc input = some (xs, rest) →
    (∀ x ∈ acc, Legible depth x) → ∀ x ∈ xs, Legible depth x
  fields : ∀ {depth acc input fs rest}, fields? n depth acc input = some (fs, rest) →
    LegibleFields depth acc → LegibleFields depth fs

section

variable {n depth : Nat} (h : ReadsLegibly n) {input rest : Bytes}
include h

theorem ReadsLegibly.value_step {v : Json} (read : value? (n + 1) depth input = some (v, rest)) :
    Legible depth v := by
  rw [value?.eq_def] at read
  dsimp only at read
  split at read
  · cases read
  split at read
  · exact legible_of_map read fun _ _ => .str _
  split at read
  · -- an array
    split at read
    · cases read
    split at read
    · cases read
    split at read
    · cases read
      exact .arr (List.forall_mem_nil _)
    split at read
    · next xs _ found =>
      cases read
      exact .arr (h.items found (List.forall_mem_nil _))
    · cases read
  split at read
  · -- an object
    split at read
    · cases read
    split at read
    · cases read
    split at read
    · cases read
      exact .obj .nil (List.forall_mem_nil _)
    split at read
    · next fs _ found =>
      cases read
      have legible := h.fields found ⟨.nil, List.forall_mem_nil _⟩
      exact .obj legible.ordered legible.each
    · cases read
  split at read
  · exact legible_of_map read fun _ _ => .null
  split at read
  · exact legible_of_map read fun _ _ => .bool true
  split at read
  · exact legible_of_map read fun _ _ => .bool false
  split at read
  · exact legible_of_map read fun _ value => Numeral.value?_legible value _
  · cases read

theorem ReadsLegibly.items_step {acc xs : List Json} (read : items? (n + 1) depth acc input = some (xs, rest))
    (before : ∀ x ∈ acc, Legible depth x) : ∀ x ∈ xs, Legible depth x := by
  rw [items?.eq_def] at read
  dsimp only at read
  split at read
  · cases read
  · next v behind found =>
    have sofar : ∀ x ∈ v :: acc, Legible depth x := by
      intro x member
      rcases List.mem_cons.mp member with rfl | earlier
      · exact h.value found
      · exact before x earlier
    split at read
    · cases read
    split at read
    · cases read
      exact fun x member => sofar x (List.mem_reverse.mp member)
    split at read
    · exact h.items read sofar
    · cases read

theorem ReadsLegibly.fields_step {acc fs : Fields} (read : fields? (n + 1) depth acc input = some (fs, rest))
    (before : LegibleFields depth acc) : LegibleFields depth fs := by
  rw [fields?.eq_def] at read
  dsimp only at read
  split at read
  · cases read
  split at read
  · split at read
    · cases read
    · next key _ _ =>
      split at read
      · cases read
      split at read
      · split at read
        · cases read
        · next v _ found =>
          have sofar := before.insert key (h.value found)
          split at read
          · cases read
          split at read
          · cases read
            exact sofar
          split at read
          · exact h.fields read sofar
          · cases read
      · cases read
  · cases read

end

theorem readsLegibly (n : Nat) : ReadsLegibly n := by
  induction n with
  | zero =>
    constructor
    · intro depth input v rest read
      rw [value?] at read
      cases read
    · intro depth acc input xs rest read
      rw [items?] at read
      cases read
    · intro depth acc input fs rest read
      rw [fields?] at read
      cases read
  | succ n ih => exact ⟨ih.value_step, ih.items_step, ih.fields_step⟩

theorem parse?_legible {input : Bytes} {v : Json} (read : parse? input = some v) : Legible nestingLimit v := by
  unfold parse? at read
  split at read
  · next w rest found =>
    split at read
    · cases read
      exact (readsLegibly _).value found
    · cases read
  · cases read

end Courier.Json
