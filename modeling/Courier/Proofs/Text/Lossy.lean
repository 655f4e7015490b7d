import Courier.Proofs.Text
/-!
Lossy reading loses nothing of a text.  The bytes of a character are read back in one step, whichever of
the four widths they have; what is narrowed for the second byte is narrowed to the bytes that characters
have there.
-/
namespace Courier.Text

/-! ### One step, by the width that the first byte announces -/

section

variable {lead b c d : UInt8} (rest : Bytes)

theorem decodeStep_one (one : width lead = 1) :
    decodeStep lead rest = (some (Char.ofNat lead.toNat), rest) := by
  simp only [decodeStep, one]

theorem decodeStep_two (two : width lead = 2) (second : isSecond lead b = true) :
    decodeStep lead (b :: rest) = (some (Char.ofNat (shiftIn (lead.toNat % 32) b)), rest) := by
  simp only [decodeStep, two, second, if_true]

theorem decodeStep_three (three : width lead = 3) (second : isSecond lead b = true)
    (third : isContinuation c = true) :
    decodeStep lead (b :: c :: rest) =
      (some (Char.ofNat (shiftIn (shiftIn (lead.toNat % 16) b) c)), rest) := by
  simp only [decodeStep, three, second, third, if_true]

theorem decodeStep_four (four : width lead = 4) (second : isSecond lead b = true)
    (third : isContinuation c = true) (fourth : isContinuation d = true) :
    decodeStep lead (b :: c :: d :: rest) =
      (some (Char.ofNat (shiftIn (shiftIn (shiftIn (lead.toNat % 8) b) c) d)), rest) := by
  simp only [decodeStep, four, second, third, fourth, if_true]

end

/-! ### Bytes by their numbers -/

theorem width_eq (n : Nat) (h : n < 256) :
    width (UInt8.ofNat n) =
      if n < 0x80 then 1 else if n < 0xC2 then 0 else if n < 0xE0 then 2 else if n < 0xF0 then 3
      else if n < 0xF5 then 4 else 0 := by
  have byte : (UInt8.ofNat n).toNat = n := UInt8.toNat_ofNat_of_lt' h
  simp only [width, UInt8.lt_iff_toNat_lt, byte]
  rfl

theorem isContinuation_byte {n : Nat} (low : 0x80 ≤ n) (high : n ≤ 0xBF) :
    isContinuation (UInt8.ofNat n) = true := by
  have byte : (UInt8.ofNat n).toNat = n := UInt8.toNat_ofNat_of_lt' (Nat.lt_of_le_of_lt high (by decide))
  simp only [isContinuation, UInt8.le_iff_toNat_le, byte, Bool.and_eq_true, decide_eq_true_eq]
  exact ⟨low, high⟩

/-- What stands second behind each first byte. -/
theorem isSecond_byte {l n : Nat} (small : l < 256) (low : 0x80 ≤ n) (high : n ≤ 0xBF)
    (overlong : l = 0xE0 → 0xA0 ≤ n) (surrogate : l = 0xED → n ≤ 0x9F) (overlong' : l = 0xF0 → 0x90 ≤ n)
    (last : l = 0xF4 → n ≤ 0x8F) : isSecond (UInt8.ofNat l) (UInt8.ofNat n) = true := by
  have same : ∀ k, k < 256 → ((UInt8.ofNat l == UInt8.ofNat k) = true ↔ l = k) := by
    intro k small_k
    rw [beq_iff_eq, ← UInt8.toNat_inj, UInt8.toNat_ofNat_of_lt' small, UInt8.toNat_ofNat_of_lt' small_k]
  have byte : (UInt8.ofNat n).toNat = n := UInt8.toNat_ofNat_of_lt' (Nat.lt_of_le_of_lt high (by decide))
  have between : ∀ k k', k ≤ n → n ≤ k' → k' < 256 →
      (decide (UInt8.ofNat k ≤ UInt8.ofNat n) && decide (UInt8.ofNat n ≤ UInt8.ofNat k')) = true := by
    intro k k' above below small
    rw [Bool.and_eq_true, decide_eq_true_eq, decide_eq_true_eq, UInt8.le_iff_toNat_le,
      UInt8.le_iff_toNat_le, byte, UInt8.toNat_ofNat_of_lt' (show k < 256 by omega),
      UInt8.toNat_ofNat_of_lt' small]
    exact ⟨above, below⟩
  unfold isSecond
  split
  · next first => exact between 0xA0 0xBF (overlong ((same 0xE0 (by decide)).mp first)) high (by decide)
  split
  · next first => exact between 0x80 0x9F low (surrogate ((same 0xED (by decide)).mp first)) (by decide)
  split
  · next first => exact between 0x90 0xBF (overlong' ((same 0xF0 (by decide)).mp first)) high (by decide)
  split
  · next first => exact between 0x80 0x8F low (last ((same 0xF4 (by decide)).mp first)) (by decide)
  · exact isContinuation_byte low high

/-- The bytes of a character are read back as the character, and no byte more. -/
theorem decodeStep_encoded (c : Char) (rest : Bytes) :
    ∃ lead tail, String.utf8EncodeChar c = lead :: tail ∧ decodeStep lead (tail ++ rest) = (some c, rest) := by
  have valid : c.toNat < 0xD800 ∨ 0xDFFF < c.toNat ∧ c.toNat < 0x110000 := c.valid
  have back : ∀ n, n = c.toNat → Char.ofNat n = c := by
    rintro n rfl
    exact Char.ofNat_toNat c
  have byte : ∀ n, n < 256 → (UInt8.ofNat n).toNat = n := fun _ => UInt8.toNat_ofNat_of_lt'
  have continues : ∀ n, isContinuation (UInt8.ofNat (n % 64 + 128)) = true :=
    fun n => isContinuation_byte (by omega) (by omega)
  have value : c.val.toNat = c.toNat := rfl
  unfold String.utf8EncodeChar
  rw [value]
  generalize c.toNat = v at valid back
  dsimp only
  split
  · next one =>
    have announced : width (UInt8.ofNat v) = 1 := by
      rw [width_eq v (by omega), if_pos (by omega)]
    refine ⟨_, [], rfl, ?_⟩
    rw [List.nil_append, decodeStep_one rest announced, back _ (byte v (by omega))]
  split
  · next more two =>
    have announced : width (UInt8.ofNat (v / 64 % 32 + 192)) = 2 := by
      rw [width_eq _ (by omega), if_neg (by omega), if_neg (by omega), if_pos (by omega)]
    have second : isSecond (UInt8.ofNat (v / 64 % 32 + 192)) (UInt8.ofNat (v % 64 + 128)) = true := by
      apply isSecond_byte <;> omega
    refine ⟨_, [_], rfl, ?_⟩
    rw [List.singleton_append, decodeStep_two rest announced second, back]
    rw [shiftIn, byte _ (by omega), byte _ (by omega)]
    omega
  split
  · next more three =>
    have announced : width (UInt8.ofNat (v / 4096 % 16 + 224)) = 3 := by
      rw [width_eq _ (by omega), if_neg (by omega), if_neg (by omega), if_neg (by omega), if_pos (by omega)]
    have second : isSecond (UInt8.ofNat (v / 4096 % 16 + 224)) (UInt8.ofNat (v / 64 % 64 + 128)) = true := by
      apply isSecond_byte <;> omega
    refine ⟨_, [_, _], rfl, ?_⟩
    rw [List.cons_append, List.singleton_append,
      decodeStep_three rest announced second (continues v), back]
    rw [shiftIn, shiftIn, byte _ (by omega), byte _ (by omega), byte _ (by omega)]
    omega
  · next more =>
    have announced : width (UInt8.ofNat (v / 262144 % 8 + 240)) = 4 := by
      rw [width_eq _ (by omega), if_neg (by omega), if_neg (by omega), if_neg (by omega), if_neg (by omega),
        if_pos (by omega)]
    have second : isSecond (UInt8.ofNat (v / 262144 % 8 + 240)) (UInt8.ofNat (v / 4096 % 64 + 128)) = true := by
      apply isSecond_byte <;> omega
    refine ⟨_, [_, _, _], rfl, ?_⟩
    rw [List.cons_append, List.cons_append, List.singleton_append,
      decodeStep_four rest announced second (continues _) (continues v), back]
    rw [shiftIn, shiftIn, shiftIn, byte _ (by omega), byte _ (by omega), byte _ (by omega),
      byte _ (by omega)]
    omega

theorem lossyChars_encoded (cs acc : List Char) : lossyChars acc (encoded cs) = acc.reverse ++ cs := by
  induction cs generalizing acc with
  | nil => simp [lossyChars]
  | cons c rest ih =>
    obtain ⟨lead, tail, bytes, step⟩ := decodeStep_encoded c (encoded rest)
    rw [encoded_cons, bytes, List.cons_append, lossyChars, step]
    dsimp only [Option.getD_some]
    rw [ih, List.reverse_cons, List.append_assoc, List.singleton_append]

@[simp] theorem lossy_utf8 (s : String) : lossy (utf8 s) = s := by
  rw [lossy, utf8_eq, lossyChars_encoded, List.reverse_nil, List.nil_append, String.ofList_toList]

end Courier.Text
