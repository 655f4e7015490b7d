import Mathlib
import Courier.Double
/-!
Whole numbers as doubles.  A whole number of at most 53 bits is a double exactly: shifted so that its leading
bit fills the significand, it needs no rounding, and shifted back it is what it was.
-/
namespace Courier.Double

section

variable {negative : Bool} {m : Nat} (h : m < signPlace)
include h

theorem bits_ofParts :
    (ofParts negative m).bits.toNat = (if negative then signPlace else 0) + m := by
  unfold ofParts
  rw [UInt64.toNat_ofNat']
  simp only [signPlace] at h ⊢
  split <;> omega

theorem magnitude_ofParts : (ofParts negative m).magnitude = m := by
  unfold magnitude
  rw [bits_ofParts h]
  simp only [signPlace] at h ⊢
  split <;> omega

theorem isNegative_ofParts : (ofParts negative m).isNegative = negative := by
  unfold isNegative
  rw [bits_ofParts h]
  cases negative with
  | true => simp
  | false =>
    simp only [Bool.false_eq_true, if_false, decide_eq_false_iff_not]
    omega

end

theorem scaled_up (num den d : Nat) : scaled num den (-(d : Int)) = (num * 2 ^ d, den) := by
  cases d with
  | zero => simp [scaled]
  | succ d => rfl

theorem scaled_down (num den d : Nat) : scaled num den (d : Int) = (num, den * 2 ^ d) := rfl

theorem roundHalfEven_one (num : Nat) : roundHalfEven num 1 = num := by
  simp [roundHalfEven, Nat.mod_one]

/-- A number with its leading bit shifted into place. -/
structure Shifted (m d : Nat) : Prop where
  short : d ≤ 52
  low : fractionSize ≤ m * 2 ^ d
  high : m * 2 ^ d < 2 * fractionSize
  log : m.log2 + d = 52

theorem shifted {m : Nat} (some_bit : m ≠ 0) (small : m < 2 * fractionSize) : Shifted m (52 - m.log2) := by
  have bound : m.log2 < 53 := (Nat.log2_lt some_bit).mpr small
  have low := Nat.log2_self_le some_bit
  have high : m < 2 ^ (m.log2 + 1) := Nat.lt_log2_self
  have total : m.log2 + (52 - m.log2) = 52 := by omega
  have power : 2 ^ m.log2 * 2 ^ (52 - m.log2) = fractionSize := by
    rw [← Nat.pow_add, total]
    rfl
  have power' : 2 ^ (m.log2 + 1) * 2 ^ (52 - m.log2) = 2 * fractionSize := by
    rw [Nat.pow_succ, Nat.mul_right_comm, power, Nat.mul_comm]
  refine ⟨by omega, ?_, ?_, total⟩
  · rw [← power]
    exact Nat.mul_le_mul_right _ low
  · rw [← power']
    exact Nat.mul_lt_mul_of_pos_right high (Nat.two_pow_pos _)

section

variable {m d : Nat} (h : Shifted m d)
include h

theorem ofRatio_shifted (negative : Bool) :
    ofRatio negative m 1 =
      ofParts negative ((1074 - d) * fractionSize + m * 2 ^ d) := by
  obtain ⟨short, low, high, log⟩ := h
  have some_bit : m ≠ 0 := by
    rintro rfl
    simp [fractionSize] at low
  have guess : (m.log2 : Int) - ((1 : Nat).log2 : Int) - 52 = -(d : Int) := by
    have : (1 : Nat).log2 = 0 := by decide
    omega
  have fits : ¬ m * 2 ^ d / 1 < fractionSize := by
    rw [Nat.div_one]
    omega
  have kept : max (-(d : Int)) (-1074) = -(d : Int) := by omega
  have biased : (-(d : Int) + 1074).toNat = 1074 - d := by omega
  have finite : ¬ 2047 * fractionSize ≤ (1074 - d) * fractionSize + m * 2 ^ d := by
    simp only [fractionSize] at high ⊢
    omega
  unfold ofRatio
  rw [if_neg some_bit]
  simp only [guess, scaled_up, if_neg fits, kept, biased, roundHalfEven_one, if_neg finite]

theorem shifted_lt : (1074 - d) * fractionSize + m * 2 ^ d < signPlace := by
  have short := h.short
  have high := h.high
  simp only [fractionSize, signPlace] at high ⊢
  omega

theorem biased_shifted (negative : Bool) : (ofRatio negative m 1).biased = 1075 - d := by
  have short := h.short
  have low := h.low
  have high := h.high
  rw [ofRatio_shifted h, biased, magnitude_ofParts (shifted_lt h)]
  simp only [fractionSize] at low high ⊢
  omega

theorem significand_shifted (negative : Bool) : (ofRatio negative m 1).significand = m * 2 ^ d := by
  have short := h.short
  have low := h.low
  have high := h.high
  have normal : ¬ (ofRatio negative m 1).biased = 0 := by
    rw [biased_shifted h]
    omega
  rw [significand, if_neg normal, fraction, ofRatio_shifted h, magnitude_ofParts (shifted_lt h)]
  simp only [fractionSize] at low high ⊢
  omega

theorem toInt?_shifted (negative : Bool) :
    (ofRatio negative m 1).isFinite = true ∧
      (ofRatio negative m 1).toInt? = some (if negative then -(m : Int) else m) := by
  have short := h.short
  have finite : (ofRatio negative m 1).isFinite = true := by
    rw [isFinite, biased_shifted h]
    simp only [decide_eq_true_eq]
    omega
  have exponent : -(ofRatio negative m 1).exponent = (d : Int) := by
    rw [Double.exponent, biased_shifted h, if_neg (by omega)]
    omega
  have sign : (ofRatio negative m 1).isNegative = negative := by
    rw [ofRatio_shifted h, isNegative_ofParts (shifted_lt h)]
  have divides : m * 2 ^ d % 2 ^ d = 0 := Nat.mul_mod_left ..
  have quotient : m * 2 ^ d / 2 ^ d = m := Nat.mul_div_cancel _ (Nat.two_pow_pos d)
  refine ⟨finite, ?_⟩
  rw [toInt?, finite, exponent, scaled_down, significand_shifted h]
  simp only [Bool.not_true, Bool.false_eq_true, if_false, Nat.one_mul, divides, quotient, sign,
    beq_self_eq_true, if_true]

end

/-- A whole number of at most 53 bits comes back from its double. -/
theorem toInt?_ofInt {n : Int} (small : n.natAbs < 2 * fractionSize) :
    (ofInt n).isFinite = true ∧ (ofInt n).toInt? = some n := by
  unfold ofInt
  by_cases zero : n = 0
  · subst zero
    decide +kernel
  · obtain ⟨finite, back⟩ := toInt?_shifted (shifted (by omega) small) (decide (n < 0))
    refine ⟨finite, back.trans (congrArg some ?_)⟩
    split
    · next below =>
      have : n < 0 := by simpa using below
      omega
    · next above =>
      have : ¬ n < 0 := by simpa using above
      omega

end Courier.Double
