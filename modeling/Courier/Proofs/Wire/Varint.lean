import Courier.Wire.Varint
import Mathlib.Tactic.Ring
/-!
Numbers on the wire, read back.  Whatever bytes follow, a number of 64 bits comes out of its groups as it
went in and leaves the rest alone; ten groups hold no more than that.  A signed number of 32 bits survives
being extended to a word.
-/
namespace Courier.Wire

/-- What is less than this fits the groups, of which the last holds one bit. -/
def groupSpan (groups : Nat) : Nat := 2 * 128 ^ groups

theorem readGroups?_varintGroups {groups n : Nat} (fits : n < groupSpan groups) (rest : Bytes) :
    readGroups? groups (varintGroups groups n ++ rest) = some (n, rest) := by
  induction groups generalizing n with
  | zero =>
    have small : n < 2 := fits
    have byte : (UInt8.ofNat n).toNat = n := UInt8.toNat_ofNat_of_lt' (Nat.lt_trans small (by decide))
    have last : UInt8.ofNat n < 2 := by
      rw [UInt8.lt_iff_toNat_lt, byte]
      exact small
    rw [varintGroups, List.singleton_append, readGroups?, if_pos last, byte]
  | succ groups ih =>
    rw [varintGroups]
    split
    · next small =>
      have byte : (UInt8.ofNat n).toNat = n := UInt8.toNat_ofNat_of_lt' (Nat.lt_trans small (by decide))
      have last : UInt8.ofNat n < 128 := by
        rw [UInt8.lt_iff_toNat_lt, byte]
        exact small
      rw [List.singleton_append, readGroups?, if_pos last, byte]
    · next large =>
      have byte : (UInt8.ofNat (n % 128 + 128)).toNat = n % 128 + 128 :=
        UInt8.toNat_ofNat_of_lt' (show n % 128 + 128 < 256 by omega)
      have more : ¬ UInt8.ofNat (n % 128 + 128) < 128 := by
        rw [UInt8.lt_iff_toNat_lt, byte]
        exact Nat.not_lt.mpr (Nat.le_add_left ..)
      have within : n / 128 < groupSpan groups := by
        have spans : groupSpan (groups + 1) = groupSpan groups * 128 := by
          unfold groupSpan
          ring
        exact Nat.div_lt_of_lt_mul (by rwa [Nat.mul_comm, ← spans])
      rw [List.cons_append, readGroups?, if_neg more, ih within, byte, Option.map_some]
      have whole : n % 128 + 128 - 128 + 128 * (n / 128) = n := by omega
      rw [whole]

theorem readVarint?_varint {n : Nat} (fits : n < Word.size64) (rest : Bytes) :
    readVarint? (varint n ++ rest) = some (n, rest) := by
  have spanned : groupSpan (groupLimit - 1) = Word.size64 := by decide
  exact readGroups?_varintGroups (spanned ▸ fits) rest

theorem varintGroups_ne_nil (groups n : Nat) : varintGroups groups n ≠ [] := by
  cases groups with
  | zero => exact List.cons_ne_nil _ _
  | succ groups =>
    rw [varintGroups]
    split <;> exact List.cons_ne_nil _ _

theorem wordOfInt_lt (n : Int) : wordOfInt n < Word.size64 := by
  unfold wordOfInt Word.size64
  omega

theorem int32OfWord_wordOfInt {n : Int} (signed : Word.isSigned32 n = true) :
    int32OfWord (wordOfInt n) = n := by
  simp only [Word.isSigned32, Bool.and_eq_true, decide_eq_true_eq] at signed
  unfold int32OfWord wordOfInt Word.size64 Word.size32 Int.bmod
  dsimp only
  split <;> omega

theorem littleEndian_length (count n : Nat) : (littleEndian count n).length = count := by
  induction count generalizing n with
  | zero => rfl
  | succ count ih => rw [littleEndian, List.length_cons, ih]

theorem ofLittleEndian_littleEndian {count n : Nat} (fits : n < 256 ^ count) :
    ofLittleEndian (littleEndian count n) = n := by
  induction count generalizing n with
  | zero =>
    have nothing : n = 0 := by simpa using fits
    rw [nothing]
    rfl
  | succ count ih =>
    have within : n / 256 < 256 ^ count := Nat.div_lt_of_lt_mul (by rwa [Nat.mul_comm, ← Nat.pow_succ])
    have later := ih within
    unfold ofLittleEndian at later ⊢
    rw [littleEndian, List.foldr_cons, later, UInt8.toNat_ofNat']
    omega

end Courier.Wire
