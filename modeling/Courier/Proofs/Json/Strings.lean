import Courier.Json.Parser
import Courier.Json.Printer
import Courier.Proofs.Text
/-!
Strings of JSON there and back.  The writer escapes what the reader would stop at, so the body of a written
string reads back to the text and ends at its own closing quote, whatever follows.  The reader takes one
step for each escape or byte; what counts is only that it has more steps left than bytes.
-/
namespace Courier.Json

open Text (encoded)

/-- Bytes that a string shows as they are. -/
def isBare (b : UInt8) : Bool := b != 0x22 && b != 0x5C && !(b < 0x20)

theorem stringBody_quote (acc rest : Bytes) (n : Nat) :
    stringBody acc (n + 1) (0x22 :: rest) = some (acc.reverse, rest) := by
  rw [stringBody.eq_def]
  simp

theorem stringBody_cons {b : UInt8} (bare : isBare b = true) (acc rest : Bytes) (n : Nat) :
    stringBody acc (n + 1) (b :: rest) = stringBody (b :: acc) n rest := by
  simp only [isBare, Bool.and_eq_true, bne_iff_ne, ne_eq, Bool.not_eq_true', decide_eq_false_iff_not] at bare
  have quote : (b == 0x22) = false := by simpa using bare.1.1
  have backslash : (b == 0x5C) = false := by simpa using bare.1.2
  rw [stringBody.eq_def]
  simp only [quote, backslash, bare.2, Bool.false_eq_true, if_false]

theorem stringBody_bare {bs : Bytes} (bare : ∀ b ∈ bs, isBare b = true) (acc rest : Bytes) (n : Nat) :
    stringBody acc (n + bs.length) (bs ++ rest) = stringBody (bs.reverse ++ acc) n rest := by
  induction bs generalizing acc with
  | nil => rfl
  | cons b more ih =>
    rw [List.length_cons, ← Nat.add_assoc, List.cons_append,
      stringBody_cons (bare b (List.mem_cons_self ..)),
      ih (fun x member => bare x (List.mem_cons_of_mem _ member)), List.reverse_cons, List.append_assoc]
    rfl

theorem stringBody_short {e x : UInt8} (notLong : (e == 0x75) = false) (short : shortEscape? e = some x)
    (acc rest : Bytes) (n : Nat) :
    stringBody acc (n + 1) (0x5C :: e :: rest) = stringBody (x :: acc) n rest := by
  have quote : ((0x5C : UInt8) == 0x22) = false := by decide
  rw [stringBody]
  simp only [quote, beq_self_eq_true, notLong, short, Bool.false_eq_true, if_false, if_true]

/-! ### Escapes by number -/

theorem hexValue?_hexDigit {n : Nat} (h : n < 16) : Text.hexValue? (Text.hexDigit n) = some n := by
  have table : ∀ m : Fin 16, Text.hexValue? (Text.hexDigit m) = some m.val := by decide
  exact table ⟨n, h⟩

theorem hexDigit_ascii {n : Nat} (h : n < 16) : (Text.hexDigit n).toNat < 128 := by
  have table : ∀ m : Fin 16, (Text.hexDigit m).toNat < 128 := by decide
  exact table ⟨n, h⟩

theorem ofNat_toNat_ascii {c : Char} (h : c.toNat < 128) :
    Char.ofNat (UInt8.ofNat c.toNat).toNat = c := by
  rw [UInt8.toNat_ofNat_of_lt' (Nat.lt_trans h (by decide))]
  exact Char.ofNat_toNat c

theorem hexNibble?_hexDigit {n : Nat} (h : n < 16) :
    hexNibble? (UInt8.ofNat (Text.hexDigit n).toNat) = some n := by
  rw [hexNibble?, ofNat_toNat_ascii (hexDigit_ascii h), hexValue?_hexDigit h]

/-- The number of a control character, in four digits. -/
theorem stringBody_control {c : Char} (control : c.toNat < 0x20) (acc rest : Bytes) (n : Nat) :
    stringBody acc (n + 1) (encoded ['\\', 'u', '0', '0', Text.hexDigit (c.toNat / 16),
        Text.hexDigit (c.toNat % 16)] ++ rest) =
      stringBody ((String.utf8EncodeChar c).reverse ++ acc) n rest := by
  have high : c.toNat / 16 < 16 := by omega
  have low : c.toNat % 16 < 16 := by omega
  have bytes : encoded ['\\', 'u', '0', '0', Text.hexDigit (c.toNat / 16), Text.hexDigit (c.toNat % 16)] =
      [0x5C, 0x75, 0x30, 0x30, UInt8.ofNat (Text.hexDigit (c.toNat / 16)).toNat,
        UInt8.ofNat (Text.hexDigit (c.toNat % 16)).toNat] := by
    rw [Text.encoded_ascii (by decide), Text.encoded_ascii (by decide), Text.encoded_ascii (by decide),
      Text.encoded_ascii (by decide), Text.encoded_ascii (hexDigit_ascii high),
      Text.encoded_ascii (hexDigit_ascii low)]
    rfl
  have zero : hexNibble? 0x30 = some 0 := by decide
  have number : ((0 * 16 + 0) * 16 + c.toNat / 16) * 16 + c.toNat % 16 = c.toNat := by omega
  have notHigh : ¬ (0xD800 ≤ c.toNat ∧ c.toNat ≤ 0xDBFF) := by omega
  have notLow : ¬ (0xDC00 ≤ c.toNat ∧ c.toNat ≤ 0xDFFF) := by omega
  have read : unicodeEscape? (0x30 :: 0x30 :: UInt8.ofNat (Text.hexDigit (c.toNat / 16)).toNat ::
      UInt8.ofNat (Text.hexDigit (c.toNat % 16)).toNat :: rest) = some (c, rest) := by
    simp only [unicodeEscape?, hexQuad?, zero, hexNibble?_hexDigit high, hexNibble?_hexDigit low, number,
      Bool.and_eq_true, decide_eq_true_eq, if_neg notHigh, if_neg notLow, Char.ofNat_toNat]
  have quote : ((0x5C : UInt8) == 0x22) = false := by decide
  rw [bytes]
  simp only [List.cons_append, List.nil_append]
  rw [stringBody]
  simp only [quote, beq_self_eq_true, Bool.false_eq_true, if_false, if_true, read]

/-! ### Characters -/

/-- The reader goes over `written`, which adds `gained` to what it has read, with steps to spare. -/
def Passes (written gained : Bytes) : Prop :=
  ∀ acc n rest, written.length + rest.length < n →
    ∃ n', rest.length < n' ∧
      stringBody acc n (written ++ rest) = stringBody (gained.reverse ++ acc) n' rest

theorem Passes.short {e x : UInt8} (notLong : (e == 0x75) = false) (short : shortEscape? e = some x) :
    Passes [0x5C, e] [x] := by
  intro acc n rest enough
  obtain ⟨n, rfl⟩ : ∃ m, n = m + 1 := ⟨n - 1, by omega⟩
  refine ⟨n, ?_, stringBody_short notLong short acc rest n⟩
  simp only [List.length_cons, List.length_nil] at enough
  omega

theorem Passes.bare {bs : Bytes} (bare : ∀ b ∈ bs, isBare b = true) : Passes bs bs := by
  intro acc n rest enough
  obtain ⟨m, rfl⟩ : ∃ m, n = m + bs.length := ⟨n - bs.length, by omega⟩
  exact ⟨m, by omega, stringBody_bare bare acc rest m⟩

/-- What is neither a quote nor a backslash nor a control character stands for itself. -/
theorem isBare_utf8EncodeChar {c : Char} (quote : c ≠ '"') (backslash : c ≠ '\\') (visible : 0x20 ≤ c.toNat) :
    ∀ b ∈ String.utf8EncodeChar c, isBare b = true := by
  have different : ∀ {d : Char}, c ≠ d → c.toNat ≠ d.toNat := by
    intro d other same
    exact other (Char.toNat_inj.mp same)
  intro b member
  have number : b.toNat ≠ 0x22 ∧ b.toNat ≠ 0x5C ∧ 0x20 ≤ b.toNat := by
    by_cases ascii : c.toNat < 128
    · rw [Text.utf8EncodeChar_ascii ascii, List.mem_singleton] at member
      subst member
      rw [UInt8.toNat_ofNat_of_lt' (Nat.lt_trans ascii (by decide))]
      exact ⟨different quote, different backslash, visible⟩
    · have := Text.utf8EncodeChar_high (by omega) b member
      omega
  simp only [isBare, Bool.and_eq_true, bne_iff_ne, ne_eq, Bool.not_eq_true', decide_eq_false_iff_not]
  refine ⟨⟨?_, ?_⟩, ?_⟩
  · rintro rfl
    exact number.1 rfl
  · rintro rfl
    exact number.2.1 rfl
  · rw [UInt8.lt_iff_toNat_lt]
    exact Nat.not_lt.mpr number.2.2

theorem passes_escapeChar (c : Char) : Passes (encoded (escapeChar c)) (String.utf8EncodeChar c) := by
  unfold escapeChar
  split
  · next same =>
    obtain rfl : c = '"' := by simpa using same
    exact .short (e := 0x22) (by decide) (by decide)
  · next quote =>
    split
    · next same =>
      obtain rfl : c = '\\' := by simpa using same
      exact .short (e := 0x5C) (by decide) (by decide)
    · next backslash =>
      split
      · next same =>
        obtain rfl : c = '\n' := by simpa using same
        exact .short (e := 0x6E) (by decide) (by decide)
      · split
        · next same =>
          obtain rfl : c = '\r' := by simpa using same
          exact .short (e := 0x72) (by decide) (by decide)
        · split
          · next same =>
            obtain rfl : c = '\t' := by simpa using same
            exact .short (e := 0x74) (by decide) (by decide)
          · split
            · next same =>
              obtain rfl : c = '\x08' := by simpa using same
              exact .short (e := 0x62) (by decide) (by decide)
            · split
              · next same =>
                obtain rfl : c = '\x0c' := by simpa using same
                exact .short (e := 0x66) (by decide) (by decide)
              · split
                · next control =>
                  intro acc n rest enough
                  obtain ⟨n, rfl⟩ : ∃ m, n = m + 1 := ⟨n - 1, by omega⟩
                  rw [Text.encoded_ascii (by decide), List.length_cons] at enough
                  exact ⟨n, by omega, stringBody_control control acc rest n⟩
                · next visible =>
                  have itself : encoded [c] = String.utf8EncodeChar c := by
                    simp [encoded]
                  rw [itself]
                  exact .bare (isBare_utf8EncodeChar (by simpa using quote) (by simpa using backslash)
                    (by omega))

theorem passes_escaped (cs : List Char) : Passes (encoded (cs.flatMap escapeChar)) (encoded cs) := by
  induction cs with
  | nil => exact fun acc n rest enough => ⟨n, by simpa using enough, rfl⟩
  | cons c cs ih =>
    intro acc n rest enough
    rw [List.flatMap_cons, Text.encoded_append, List.length_append, Nat.add_assoc] at enough
    obtain ⟨n', spare, first⟩ := passes_escapeChar c acc n (encoded (cs.flatMap escapeChar) ++ rest)
      (by rwa [List.length_append])
    rw [List.length_append] at spare
    obtain ⟨n'', spare', more⟩ := ih ((String.utf8EncodeChar c).reverse ++ acc) n' rest spare
    refine ⟨n'', spare', ?_⟩
    rw [List.flatMap_cons, Text.encoded_append, List.append_assoc, first, more, Text.encoded_cons,
      List.reverse_append, List.append_assoc]

/-- A written string, without its opening quote, reads back to the text. -/
theorem string?_quoted (s : String) (rest : Bytes) :
    string? (encoded (s.toList.flatMap escapeChar) ++ 0x22 :: rest) = some (s, rest) := by
  obtain ⟨n, spare, passed⟩ := passes_escaped s.toList []
    ((encoded (s.toList.flatMap escapeChar) ++ 0x22 :: rest).length + 1) (0x22 :: rest)
    (by rw [List.length_append]; omega)
  obtain ⟨n, rfl⟩ : ∃ m, n = m + 1 := ⟨n - 1, by omega⟩
  unfold string?
  rw [passed, stringBody_quote, List.append_nil, List.reverse_reverse]
  dsimp only
  rw [← Text.utf8_eq, Text.ofUtf8?_utf8]
  rfl

end Courier.Json
