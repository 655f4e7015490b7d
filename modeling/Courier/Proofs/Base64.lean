import Courier.Base64
/-!
Base 64 there and back.  Every group that the writer makes is read back to the bytes it was made of, in both
alphabets, padded or bare; the pad is no symbol, so a full group at the end is not taken for a short
one.  What is written is visible text without blanks, and nothing else is read: a text that is read at all
is the one that its bytes are written as.
-/
namespace Courier.Base64

variable (a : Alphabet)

theorem value?_symbol {n : Nat} (h : n < 64) : a.value? (a.symbol n) = some n := by
  have table : ∀ m : Fin 64, a.value? (a.symbol m) = some m.val := by cases a <;> decide
  exact table ⟨n, h⟩

theorem symbol_ne_pad {n : Nat} (h : n < 64) : (a.symbol n == '=') = false := by
  have table : ∀ m : Fin 64, (a.symbol m == '=') = false := by cases a <;> decide
  exact table ⟨n, h⟩

theorem byte_toNat {n : Nat} {x : UInt8} (h : n = x.toNat) : byte n = x := by
  subst h
  simp [byte]

/-- A last group of one byte. -/
theorem decodePair?_symbols (x : UInt8) :
    decodePair? a (a.symbol (x.toNat * 16 / 64)) (a.symbol (x.toNat * 16 % 64)) = some [x] := by
  have bound := x.toNat_lt
  have first : x.toNat * 16 / 64 < 64 := by omega
  have second : x.toNat * 16 % 64 < 64 := by omega
  have unused : (x.toNat * 16 % 64) % 16 = 0 := by omega
  have whole : (x.toNat * 16 / 64 * 64 + x.toNat * 16 % 64) / 16 = x.toNat := by omega
  simp only [decodePair?, value?_symbol a first, value?_symbol a second, unused, byte_toNat whole,
    beq_self_eq_true, if_true]

/-- A last group of two bytes. -/
theorem decodeTriple?_symbols (x y : UInt8) :
    decodeTriple? a (a.symbol ((x.toNat * 256 + y.toNat) * 4 / 4096))
      (a.symbol ((x.toNat * 256 + y.toNat) * 4 / 64 % 64))
      (a.symbol ((x.toNat * 256 + y.toNat) * 4 % 64)) = some [x, y] := by
  have bound := x.toNat_lt
  have bound' := y.toNat_lt
  generalize paired : (x.toNat * 256 + y.toNat) * 4 = n
  have first : n / 4096 < 64 := by omega
  have second : n / 64 % 64 < 64 := by omega
  have third : n % 64 < 64 := by omega
  have unused : (n % 64) % 4 = 0 := by omega
  have high : ((n / 4096 * 64 + n / 64 % 64) * 64 + n % 64) / 1024 = x.toNat := by omega
  have low : ((n / 4096 * 64 + n / 64 % 64) * 64 + n % 64) / 4 % 256 = y.toNat := by omega
  simp only [decodeTriple?, value?_symbol a first, value?_symbol a second, value?_symbol a third, unused,
    byte_toNat high, byte_toNat low, beq_self_eq_true, if_true]

/-- A full group, which is not the last or at least not a short one. -/
theorem decodeChars?_group (pad : Bool) (x y z : UInt8) (rest : List Char) :
    decodeChars? a pad (encodeChars a pad [x, y, z] ++ rest) =
      (decodeChars? a pad rest).map fun bytes => x :: y :: z :: bytes := by
  have bound := x.toNat_lt
  have bound' := y.toNat_lt
  have bound'' := z.toNat_lt
  simp only [encodeChars, List.cons_append, List.nil_append]
  generalize grouped : (x.toNat * 256 + y.toNat) * 256 + z.toNat = n
  have first : n / 262144 < 64 := by omega
  have second : n / 4096 % 64 < 64 := by omega
  have third : n / 64 % 64 < 64 := by omega
  have fourth : n % 64 < 64 := by omega
  have whole : ((n / 262144 * 64 + n / 4096 % 64) * 64 + n / 64 % 64) * 64 + n % 64 = n := by omega
  have high : n / 65536 = x.toNat := by omega
  have middle : n / 256 % 256 = y.toNat := by omega
  have low : n % 256 = z.toNat := by omega
  rw [decodeChars?]
  simp only [symbol_ne_pad a fourth, Bool.and_false, Bool.false_eq_true, if_false, value?_symbol a first,
    value?_symbol a second, value?_symbol a third, value?_symbol a fourth, whole, byte_toNat high,
    byte_toNat middle, byte_toNat low]

theorem decodeChars?_encodeChars (pad : Bool) (b : Bytes) :
    decodeChars? a pad (encodeChars a pad b) = some b := by
  induction b using encodeChars.induct with
  | case1 => rfl
  | case2 x =>
    cases pad with
    | true => exact decodePair?_symbols a x
    | false => exact decodePair?_symbols a x
  | case3 x y =>
    have third : (x.toNat * 256 + y.toNat) * 4 % 64 < 64 := by omega
    cases pad with
    | true =>
      simp only [encodeChars, if_true, List.cons_append, List.nil_append, decodeChars?, List.isEmpty_nil,
        Bool.true_and, beq_self_eq_true, symbol_ne_pad a third, Bool.false_eq_true, if_false]
      exact decodeTriple?_symbols a x y
    | false => exact decodeTriple?_symbols a x y
  | case4 x y z rest ih =>
    have split : encodeChars a pad (x :: y :: z :: rest) =
        encodeChars a pad [x, y, z] ++ encodeChars a pad rest := by
      simp [encodeChars]
    rw [split, decodeChars?_group, ih]
    rfl

theorem decode?_encode (b : Bytes) : decode? (encode b) = some b := by
  unfold decode? encode
  rw [String.toList_ofList]
  exact decodeChars?_encodeChars .standard true b

theorem decodeUrl?_encodeUrl (b : Bytes) : decodeUrl? (encodeUrl b) = some b := by
  unfold decodeUrl? encodeUrl
  rw [String.toList_ofList]
  exact decodeChars?_encodeChars .urlSafe false b

/-- Everything that is written satisfies what symbols and pad satisfy. -/
theorem encodeChars_all {p : Char → Prop} (symbols : ∀ n, n < 64 → p (a.symbol n)) (padding : p '=')
    (pad : Bool) (b : Bytes) : ∀ c ∈ encodeChars a pad b, p c := by
  have filled : ∀ cs : List Char, (∀ c ∈ cs, p c) → ∀ c ∈ (if pad then cs else []), p c := by
    intro cs all
    split
    · exact all
    · nofun
  induction b using encodeChars.induct with
  | case1 => nofun
  | case2 x =>
    have bound := x.toNat_lt
    intro c member
    rcases List.mem_append.mp member with symbol | padded
    · simp only [List.mem_cons, List.not_mem_nil, or_false] at symbol
      rcases symbol with rfl | rfl <;> exact symbols _ (by omega)
    · exact filled ['=', '='] (by simpa using padding) c padded
  | case3 x y =>
    have bound := x.toNat_lt
    have bound' := y.toNat_lt
    intro c member
    rcases List.mem_append.mp member with symbol | padded
    · simp only [List.mem_cons, List.not_mem_nil, or_false] at symbol
      rcases symbol with rfl | rfl | rfl <;> exact symbols _ (by omega)
    · exact filled ['='] (by simpa using padding) c padded
  | case4 x y z rest ih =>
    have bound := x.toNat_lt
    have bound' := y.toNat_lt
    have bound'' := z.toNat_lt
    intro c member
    simp only [encodeChars, List.mem_cons] at member
    rcases member with rfl | rfl | rfl | rfl | member
    · exact symbols _ (by omega)
    · exact symbols _ (by omega)
    · exact symbols _ (by omega)
    · exact symbols _ (by omega)
    · exact ih c member

/-! ### Nothing else is read -/

theorem symbol_of_value? {c : Char} {n : Nat} (h : a.value? c = some n) : n < 64 ∧ a.symbol n = c := by
  have named : ∀ k, k = c.toNat → Char.ofNat k = c := by
    rintro _ rfl
    exact Char.ofNat_toNat c
  have between : ∀ d e : Char, (d ≤ c && c ≤ e) = true → d.toNat ≤ c.toNat ∧ c.toNat ≤ e.toNat := by
    intro d e within
    have both : d ≤ c ∧ c ≤ e := by simpa using within
    exact both
  unfold Alphabet.value? at h
  split at h
  · next upper =>
    obtain ⟨low, high⟩ : 65 ≤ c.toNat ∧ c.toNat ≤ 90 := between _ _ upper
    obtain rfl := Option.some.inj h
    refine ⟨by omega, ?_⟩
    rw [Alphabet.symbol.eq_def, if_pos (by omega)]
    exact named _ (by omega)
  · split at h
    · next lower =>
      obtain ⟨low, high⟩ : 97 ≤ c.toNat ∧ c.toNat ≤ 122 := between _ _ lower
      obtain rfl := Option.some.inj h
      refine ⟨by omega, ?_⟩
      rw [Alphabet.symbol.eq_def, if_neg (by omega), if_pos (by omega)]
      exact named _ (by omega)
    · split at h
      · next digit =>
        obtain ⟨low, high⟩ : 48 ≤ c.toNat ∧ c.toNat ≤ 57 := between _ _ digit
        obtain rfl := Option.some.inj h
        refine ⟨by omega, ?_⟩
        rw [Alphabet.symbol.eq_def, if_neg (by omega), if_neg (by omega), if_pos (by omega)]
        exact named _ (by omega)
      · split at h
        · next last =>
          obtain rfl := Option.some.inj h
          exact ⟨by decide, (eq_of_beq last).symm⟩
        · split at h
          · next last =>
            obtain rfl := Option.some.inj h
            exact ⟨by decide, (eq_of_beq last).symm⟩
          · cases h

theorem toNat_byte {n : Nat} (small : n < 256) : (byte n).toNat = n := by
  simp [byte, Nat.mod_eq_of_lt small]

/-- A last group of two symbols is the one that its byte is written as. -/
theorem symbols_of_decodePair? {c d : Char} {b : Bytes} (read : decodePair? a c d = some b) (pad : Bool) :
    encodeChars a pad b = [c, d] ++ if pad then ['=', '='] else [] := by
  unfold decodePair? at read
  split at read
  · next x y first second =>
    obtain ⟨smallX, rfl⟩ := symbol_of_value? a first
    obtain ⟨smallY, rfl⟩ := symbol_of_value? a second
    split at read
    · next unused =>
      have unused : y % 16 = 0 := eq_of_beq unused
      obtain rfl := Option.some.inj read
      have value : (byte ((x * 64 + y) / 16)).toNat * 16 = x * 64 + y := by
        rw [toNat_byte (by omega)]
        omega
      have high : (x * 64 + y) / 64 = x := by omega
      have low : (x * 64 + y) % 64 = y := by omega
      simp only [encodeChars, value, high, low]
    · cases read
  · cases read

/-- A last group of three symbols is the one that its bytes are written as. -/
theorem symbols_of_decodeTriple? {c d e : Char} {b : Bytes} (read : decodeTriple? a c d e = some b)
    (pad : Bool) : encodeChars a pad b = [c, d, e] ++ if pad then ['='] else [] := by
  unfold decodeTriple? at read
  split at read
  · next x y z first second third =>
    obtain ⟨smallX, rfl⟩ := symbol_of_value? a first
    obtain ⟨smallY, rfl⟩ := symbol_of_value? a second
    obtain ⟨smallZ, rfl⟩ := symbol_of_value? a third
    dsimp only at read
    split at read
    · next unused =>
      have unused : z % 4 = 0 := eq_of_beq unused
      obtain rfl := Option.some.inj read
      generalize joined : (x * 64 + y) * 64 + z = n
      have value : ((byte (n / 1024)).toNat * 256 + (byte (n / 4 % 256)).toNat) * 4 = n := by
        rw [toNat_byte (by omega), toNat_byte (by omega)]
        omega
      have high : n / 4096 = x := by omega
      have middle : n / 64 % 64 = y := by omega
      have low : n % 64 = z := by omega
      simp only [encodeChars, value, high, middle, low]
    · cases read
  · cases read

/-- A full group is the one that its bytes are written as. -/
theorem encodeChars_group (pad : Bool) {w x y z n : Nat} (smallW : w < 64) (smallX : x < 64)
    (smallY : y < 64) (smallZ : z < 64) (joined : n = ((w * 64 + x) * 64 + y) * 64 + z) (rest : Bytes) :
    encodeChars a pad (byte (n / 65536) :: byte (n / 256 % 256) :: byte (n % 256) :: rest) =
      a.symbol w :: a.symbol x :: a.symbol y :: a.symbol z :: encodeChars a pad rest := by
  have value : ((byte (n / 65536)).toNat * 256 + (byte (n / 256 % 256)).toNat) * 256 +
      (byte (n % 256)).toNat = n := by
    rw [toNat_byte (by omega), toNat_byte (by omega), toNat_byte (by omega)]
    omega
  have first : n / 262144 = w := by omega
  have second : n / 4096 % 64 = x := by omega
  have third : n / 64 % 64 = y := by omega
  have fourth : n % 64 = z := by omega
  simp only [encodeChars, value, first, second, third, fourth]

/-- Nothing is read but what would have been written for it. -/
theorem encodeChars_of_decodeChars? (pad : Bool) {cs : List Char} {b : Bytes}
    (read : decodeChars? a pad cs = some b) : encodeChars a pad b = cs := by
  induction cs using decodeChars?.induct a pad generalizing b with
  | case1 =>
    obtain rfl := Option.some.inj read
    rfl
  | case2 => cases read
  | case3 c d padded =>
    rw [decodeChars?, if_pos padded] at read
    cases read
  | case4 c d bare =>
    rw [decodeChars?, if_neg bare] at read
    rw [symbols_of_decodePair? a read, if_neg bare, List.append_nil]
  | case5 c d e padded =>
    rw [decodeChars?, if_pos padded] at read
    cases read
  | case6 c d e bare =>
    rw [decodeChars?, if_neg bare] at read
    rw [symbols_of_decodeTriple? a read, if_neg bare, List.append_nil]
  | case7 c d e f rest last pair =>
    rw [decodeChars?, if_pos last, if_pos pair] at read
    simp only [Bool.and_eq_true, List.isEmpty_iff, beq_iff_eq] at last pair
    obtain ⟨⟨padded, rfl⟩, rfl⟩ := last
    rw [symbols_of_decodePair? a read, if_pos padded, pair]
    rfl
  | case8 c d e f rest last triple =>
    rw [decodeChars?, if_pos last, if_neg triple] at read
    simp only [Bool.and_eq_true, List.isEmpty_iff, beq_iff_eq] at last
    obtain ⟨⟨padded, rfl⟩, rfl⟩ := last
    rw [symbols_of_decodeTriple? a read, if_pos padded]
    rfl
  | case9 c d e f rest middle w x y z fourth third second first ih =>
    simp only [decodeChars?, if_neg middle, first, second, third, fourth] at read
    obtain ⟨bytes, later, rfl⟩ := Option.map_eq_some_iff.mp read
    obtain ⟨smallW, rfl⟩ := symbol_of_value? a first
    obtain ⟨smallX, rfl⟩ := symbol_of_value? a second
    obtain ⟨smallY, rfl⟩ := symbol_of_value? a third
    obtain ⟨smallZ, rfl⟩ := symbol_of_value? a fourth
    rw [encodeChars_group a pad smallW smallX smallY smallZ rfl, ih later]
  | case10 c d e f rest middle unknown =>
    rw [decodeChars?, if_neg middle] at read
    split at read
    · next w x y z first second third fourth => exact (unknown w x y z first second third fourth).elim
    · cases read

theorem encodeUrl_of_decodeUrl? {s : String} {b : Bytes} (read : decodeUrl? s = some b) :
    encodeUrl b = s := by
  rw [encodeUrl, encodeChars_of_decodeChars? .urlSafe false read, String.ofList_toList]

end Courier.Base64
