import Courier.Proofs.Double.Whole
import Courier.Word
/-!
The number that a finite double denotes, as a rational.  A double reads as an integer exactly if it denotes
that integer.  Integers that are too long for a significand are rounded, but never below the shortest of them.
-/
namespace Courier.Double

/-- The number that a finite double denotes. -/
def value (x : Double) : ℚ :=
  (if x.isNegative then -1 else 1) * (x.significand * (2 : ℚ) ^ x.exponent)

/-- Finite and not whole. -/
structure Fractional (x : Double) : Prop where
  finite : x.isFinite = true
  broken : ∀ n : Int, x.value ≠ n

theorem scaled_pos {den : Nat} (positive : 0 < den) (num : Nat) (shift : Int) :
    0 < (scaled num den shift).2 := by
  cases shift with
  | ofNat k => exact Nat.mul_pos positive (Nat.two_pow_pos k)
  | negSucc k => exact positive

/-- The quotient that stands for a number scaled by a power of two. -/
theorem scaled_quotient (num : Nat) (shift : Int) :
    ((scaled num 1 shift).1 : ℚ) / (scaled num 1 shift).2 = num * (2 : ℚ) ^ (-shift) := by
  cases shift with
  | ofNat k =>
    have power : ((1 * Nat.pow 2 k : Nat) : ℚ) = (2 : ℚ) ^ (k : Int) := by
      rw [Nat.one_mul, Nat.pow_eq, Nat.cast_pow, zpow_natCast]
      rfl
    rw [scaled, power, Int.ofNat_eq_natCast, zpow_neg, div_eq_mul_inv]
  | negSucc k =>
    have power : ((Nat.pow 2 (k + 1) : Nat) : ℚ) = (2 : ℚ) ^ ((k + 1 : Nat) : Int) := by
      rw [Nat.pow_eq, Nat.cast_pow, zpow_natCast]
      rfl
    rw [scaled, Nat.cast_mul, power, Nat.cast_one, div_one, Int.neg_negSucc]

/-- A quotient of natural numbers is whole exactly if nothing remains. -/
theorem quotient_eq_iff {a b k : Nat} (positive : 0 < b) : (a : ℚ) / b = k ↔ a % b = 0 ∧ a / b = k := by
  have nonzero : (b : ℚ) ≠ 0 := by exact_mod_cast positive.ne'
  rw [div_eq_iff nonzero]
  constructor
  · intro same
    have product : a = k * b := by exact_mod_cast same
    rw [product]
    exact ⟨Nat.mul_mod_left k b, Nat.mul_div_cancel k positive⟩
  · rintro ⟨nothing, whole⟩
    have product : a = k * b := by
      rw [← whole, Nat.div_mul_cancel (Nat.dvd_of_mod_eq_zero nothing)]
    exact_mod_cast product

/-- A sign and a magnitude denote an integer only if the magnitude is whole. -/
theorem signed_eq_iff {negative : Bool} {q : ℚ} (magnitude : 0 ≤ q) {n : Int} :
    (if negative then -1 else 1) * q = n ↔ ∃ k : Nat, q = k ∧ (if negative then -(k : Int) else k) = n := by
  constructor
  · intro denotes
    refine ⟨n.natAbs, ?_⟩
    cases negative with
    | true =>
      rw [if_pos rfl, neg_one_mul] at denotes
      have below : n ≤ 0 := by exact_mod_cast (by linarith : (n : ℚ) ≤ 0)
      refine ⟨?_, by rw [if_pos rfl]; omega⟩
      rw [Nat.cast_natAbs, abs_of_nonpos below, Int.cast_neg, ← denotes, neg_neg]
    | false =>
      rw [if_neg Bool.false_ne_true, one_mul] at denotes
      have above : 0 ≤ n := by exact_mod_cast (by linarith : (0 : ℚ) ≤ n)
      refine ⟨?_, by rw [if_neg Bool.false_ne_true]; omega⟩
      rw [Nat.cast_natAbs, abs_of_nonneg above, denotes]
  · rintro ⟨k, rfl, rfl⟩
    cases negative <;> simp

theorem toInt?_eq_some_iff {x : Double} {n : Int} :
    x.toInt? = some n ↔ x.isFinite = true ∧ x.value = n := by
  cases finite : x.isFinite with
  | false => simp [toInt?, finite]
  | true =>
    let s := scaled x.significand 1 (-x.exponent)
    have positive : 0 < s.2 := scaled_pos Nat.one_pos _ _
    have quotient : (s.1 : ℚ) / s.2 = x.significand * (2 : ℚ) ^ x.exponent := by
      rw [scaled_quotient, neg_neg]
    have read : x.toInt? = if s.1 % s.2 == 0 then
        some (if x.isNegative then -((s.1 / s.2 : Nat) : Int) else ((s.1 / s.2 : Nat) : Int)) else none := by
      rw [toInt?, finite]
      rfl
    have magnitude : (0 : ℚ) ≤ (s.1 : ℚ) / s.2 := by positivity
    rw [read, value, ← quotient, signed_eq_iff magnitude]
    simp only [quotient_eq_iff positive, beq_iff_eq]
    constructor
    · intro found
      split at found
      · next nothing => exact ⟨trivial, _, ⟨nothing, rfl⟩, Option.some.inj found⟩
      · cases found
    · rintro ⟨_, k, ⟨nothing, rfl⟩, whole⟩
      rw [if_pos nothing, whole]

/-! ### Integers that are rounded -/

/-- From this exponent on a double denotes a whole number that fills its significand or more. -/
theorem le_abs_value {x : Double} (large : 1076 ≤ x.biased) : ((2 * fractionSize : Nat) : ℚ) ≤ |x.value| := by
  have normal : ¬ x.biased = 0 := by omega
  have filled : fractionSize ≤ x.significand := by
    rw [significand, if_neg normal]
    exact Nat.le_add_right _ _
  have shifted : (2 : ℚ) ^ (1 : Int) ≤ 2 ^ x.exponent := by
    refine zpow_le_zpow_right₀ (by norm_num) ?_
    rw [exponent, if_neg normal]
    omega
  have magnitude : |x.value| = x.significand * (2 : ℚ) ^ x.exponent := by
    rw [value, abs_mul, abs_of_nonneg (by positivity : (0 : ℚ) ≤ x.significand * 2 ^ x.exponent)]
    cases x.isNegative <;> simp
  calc ((2 * fractionSize : Nat) : ℚ)
      = fractionSize * 2 ^ (1 : Int) := by push_cast; ring
    _ ≤ x.significand * 2 ^ x.exponent := by
      refine mul_le_mul (by exact_mod_cast filled) shifted (by positivity) (by positivity)
    _ = |x.value| := magnitude.symm

/-- A quotient between two powers of two stays there when it is rounded. -/
theorem roundHalfEven_bounds (num den : Nat) :
    num / den ≤ roundHalfEven num den ∧ roundHalfEven num den ≤ num / den + 1 := by
  unfold roundHalfEven
  dsimp only
  split <;> omega

section

variable {m : Nat} (long : 2 * fractionSize ≤ m) (fits : m < Word.size64)
include long fits

/-- How an integer of 54 to 64 bits is rounded. -/
theorem ofRatio_long (negative : Bool) : ∃ rounded, fractionSize ≤ rounded ∧ rounded ≤ 2 * fractionSize ∧
    ofRatio negative m 1 = ofParts negative ((m.log2 + 1022) * fractionSize + rounded) := by
  have nonzero : m ≠ 0 := by
    rintro rfl
    simp [fractionSize] at long
  have least : 53 ≤ m.log2 := (Nat.le_log2 nonzero).mpr long
  have most : m.log2 < 64 := (Nat.log2_lt nonzero).mpr fits
  obtain ⟨e, log⟩ : ∃ e, m.log2 = e + 52 := ⟨m.log2 - 52, by omega⟩
  have low : 2 ^ e * fractionSize ≤ m := by
    have := Nat.log2_self_le nonzero
    rwa [log, Nat.pow_add] at this
  have high : m < 2 ^ e * (2 * fractionSize) := by
    have := Nat.lt_log2_self (n := m)
    rwa [log, Nat.add_assoc, Nat.pow_add] at this
  have lowest : fractionSize ≤ m / 2 ^ e :=
    (Nat.le_div_iff_mul_le (Nat.two_pow_pos e)).mpr (by rwa [Nat.mul_comm])
  have highest : m / 2 ^ e < 2 * fractionSize := Nat.div_lt_of_lt_mul high
  have guess : (m.log2 : Int) - ((1 : Nat).log2 : Int) - 52 = (e : Int) := by
    have : (1 : Nat).log2 = 0 := by decide
    omega
  have fills : ¬ m / 2 ^ e < fractionSize := by omega
  have kept : max (e : Int) (-1074) = e := by omega
  have biased : ((e : Int) + 1074).toNat = m.log2 + 1022 := by omega
  obtain ⟨down, up⟩ := roundHalfEven_bounds m (2 ^ e)
  have finite : ¬ 2047 * fractionSize ≤ (m.log2 + 1022) * fractionSize + roundHalfEven m (2 ^ e) := by
    simp only [fractionSize] at highest ⊢
    omega
  refine ⟨roundHalfEven m (2 ^ e), by omega, by omega, ?_⟩
  unfold ofRatio
  rw [if_neg nonzero]
  simp only [guess, scaled_down, Nat.one_mul, if_neg fills, kept, biased, if_neg finite]

theorem ofRatio_long_biased (negative : Bool) :
    1076 ≤ (ofRatio negative m 1).biased ∧ (ofRatio negative m 1).isFinite = true := by
  have nonzero : m ≠ 0 := by
    rintro rfl
    simp [fractionSize] at long
  have least : 53 ≤ m.log2 := (Nat.le_log2 nonzero).mpr long
  have most : m.log2 < 64 := (Nat.log2_lt nonzero).mpr fits
  obtain ⟨rounded, low, high, made⟩ := ofRatio_long long fits negative
  have small : (m.log2 + 1022) * fractionSize + rounded < signPlace := by
    simp only [fractionSize, signPlace] at high ⊢
    omega
  have biased : (ofRatio negative m 1).biased = ((m.log2 + 1022) * fractionSize + rounded) / fractionSize := by
    rw [made, Double.biased, magnitude_ofParts small]
  rw [isFinite, biased, decide_eq_true_iff]
  simp only [fractionSize] at low high ⊢
  omega

end

/-- An integer of 54 to 64 bits becomes a finite double that is no shorter. -/
theorem ofInt_long {n : Int} (long : 2 * fractionSize ≤ n.natAbs) (fits : n.natAbs < Word.size64) :
    (ofInt n).isFinite = true ∧ ((2 * fractionSize : Nat) : ℚ) ≤ |(ofInt n).value| := by
  obtain ⟨large, finite⟩ := ofRatio_long_biased long fits (decide (n < 0))
  exact ⟨finite, le_abs_value large⟩

end Courier.Double
