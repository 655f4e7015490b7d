import Courier.Http.Date
import Courier.Token
import Courier.Trace
import Courier.Proofs.Base64
import Courier.Proofs.Http.Headers
/-!
Texts that the headers of a call are made of: the date, the token and the ids of a span.  Whatever the
time, the claims and the ids are, these texts are visible, so none of them is refused as a value or left
behind by a message of the tunnel.
-/
namespace Courier

open Http (all_visible_append all_visible_utf8 isVisibleByte)

/-- A character that is printed. -/
def Printed (c : Char) : Prop := 0x20 ≤ c.toNat ∧ c.toNat < 0x7F

/-! ### Numbers -/

theorem printed_digitChar (d : Nat) : Printed (Nat.digitChar d) := by
  by_cases small : d < 16
  · have table : ∀ m : Fin 16, 0x20 ≤ (Nat.digitChar m.val).toNat ∧ (Nat.digitChar m.val).toNat < 0x7F := by
      decide
    exact table ⟨d, small⟩
  · have other : Nat.digitChar d = '*' := by
      unfold Nat.digitChar
      repeat rw [if_neg (by omega)]
    rw [other]
    exact ⟨by decide, by decide⟩

theorem printed_toDigits (base n : Nat) : ∀ c ∈ Nat.toDigits base n, Printed c := by
  have core : ∀ (fuel n : Nat) (ds : List Char), (∀ c ∈ ds, Printed c) →
      ∀ c ∈ Nat.toDigitsCore base fuel n ds, Printed c := by
    intro fuel
    induction fuel with
    | zero => exact fun _ _ printed => printed
    | succ fuel ih =>
      intro n ds printed
      have more : ∀ c ∈ Nat.digitChar (n % base) :: ds, Printed c :=
        List.forall_mem_cons.mpr ⟨printed_digitChar _, printed⟩
      rw [Nat.toDigitsCore]
      split
      · exact more
      · exact ih _ _ more
  exact core _ _ _ nofun

theorem printed_filled {width : Nat} {digits : List Char} (printed : ∀ c ∈ digits, Printed c) :
    ∀ c ∈ List.replicate width '0' ++ digits, Printed c := by
  intro c member
  rcases List.mem_append.mp member with zero | digit
  · rw [(List.mem_replicate.mp zero).2]
    exact ⟨by decide, by decide⟩
  · exact printed c digit

/-! ### The date -/

namespace Http.Date

theorem pad_visible (width n : Nat) : (Text.utf8 (pad width n)).all isVisibleByte = true := by
  refine all_visible_utf8 ?_
  rw [pad, String.toList_ofList]
  exact printed_filled (printed_toDigits 10 n)

/-- A name out of a list, or none. -/
theorem name_visible {names : List String} (visible : ∀ s ∈ names, (Text.utf8 s).all isVisibleByte = true)
    (i : Nat) : (Text.utf8 (names[i]?.getD "")).all isVisibleByte = true := by
  cases found : names[i]? with
  | none => rfl
  | some s => exact visible s (List.mem_of_getElem? found)

theorem text_visible (seconds : Int) : (Text.utf8 (text seconds)).all isVisibleByte = true := by
  have days : ∀ s ∈ dayNames, (Text.utf8 s).all isVisibleByte = true := by decide +kernel
  have months : ∀ s ∈ monthNames, (Text.utf8 s).all isVisibleByte = true := by decide +kernel
  have comma : (Text.utf8 ", ").all isVisibleByte = true := by decide +kernel
  have blank : (Text.utf8 " ").all isVisibleByte = true := by decide +kernel
  have colon : (Text.utf8 ":").all isVisibleByte = true := by decide +kernel
  have zone : (Text.utf8 " GMT").all isVisibleByte = true := by decide +kernel
  have day := fun i n =>
    all_visible_append (all_visible_append (name_visible days i) comma) (pad_visible 2 n)
  have month := fun i n j =>
    all_visible_append (all_visible_append (day i n) blank) (name_visible months j)
  have year := fun i n j y =>
    all_visible_append (all_visible_append (month i n j) blank) (pad_visible 4 y)
  have hour := fun i n j y h =>
    all_visible_append (all_visible_append (year i n j y) blank) (pad_visible 2 h)
  have minute := fun i n j y h m =>
    all_visible_append (all_visible_append (hour i n j y h) colon) (pad_visible 2 m)
  have second := fun i n j y h m s =>
    all_visible_append (all_visible_append (minute i n j y h m) colon) (pad_visible 2 s)
  exact all_visible_append (second _ _ _ _ _ _ _) zone

end Http.Date

/-! ### The token -/

namespace Base64

theorem encodeUrl_visible (b : Bytes) : (Text.utf8 (encodeUrl b)).all isVisibleByte = true := by
  have table : ∀ n : Fin 64, 0x20 ≤ (Alphabet.urlSafe.symbol n).toNat ∧
      (Alphabet.urlSafe.symbol n).toNat < 0x7F := by decide
  refine all_visible_utf8 ?_
  rw [encodeUrl, String.toList_ofList]
  exact encodeChars_all .urlSafe (fun n small => table ⟨n, small⟩) (by decide) false b

end Base64

theorem Token.issue_visible (identity : Identity) (audience : String) (now : Int) :
    (Text.utf8 (issue identity audience now).1).all isVisibleByte = true := by
  have dot : (Text.utf8 ".").all isVisibleByte = true := by decide +kernel
  have segments : ∀ c, (Text.utf8 (signed c)).all isVisibleByte = true := fun c =>
    all_visible_append (all_visible_append (Base64.encodeUrl_visible _) dot) (Base64.encodeUrl_visible _)
  exact all_visible_append (all_visible_append (segments _) dot) (Base64.encodeUrl_visible _)

/-! ### The ids of a span -/

theorem Trace.parentText_visible (s : Span) : (Text.utf8 (parentText s)).all isVisibleByte = true := by
  have digits : ∀ width n, ∀ c ∈ hex width n, Printed c := fun _ n => printed_filled (printed_toDigits 16 n)
  have zero : Printed '0' := ⟨by decide, by decide⟩
  have dash : Printed '-' := ⟨by decide, by decide⟩
  refine all_visible_utf8 ?_
  rw [parentText, String.toList_ofList]
  intro c member
  simp only [List.mem_cons, List.mem_append] at member
  rcases member with ((rfl | rfl | rfl | trace) | rfl | span) | rfl | flags
  · exact zero
  · exact zero
  · exact dash
  · exact digits _ _ c trace
  · exact dash
  · exact digits _ _ c span
  · exact dash
  · exact digits _ _ c flags

end Courier
