import Courier.Json.Parser
import Courier.Json.Printer
import Courier.Proofs.Text
/-!
Whole numbers of JSON there and back.  The decimal digits of a natural number are read up to the first byte
that no number goes on with, and denote it; they start with a zero only if they are a single zero.
-/
namespace Courier.Json

open Text (encoded)

/-- What follows a value that is not alone: the end, or a byte that closes or separates. -/
def Stops (rest : Bytes) : Prop := ∀ b t, rest = b :: t → b = 0x2C ∨ b = 0x5D ∨ b = 0x7D

theorem Stops.nil : Stops [] := nofun

theorem Stops.cons {b : UInt8} {t : Bytes} (h : b = 0x2C ∨ b = 0x5D ∨ b = 0x7D) : Stops (b :: t) := by
  rintro _ _ ⟨⟩
  exact h

/-! ### Digits -/

theorem natOf_append (ds : List Nat) (d : Nat) : natOf (ds ++ [d]) = natOf ds * 10 + d := by
  simp [natOf, List.foldl_append]

/-- The decimal digits of a number, the highest first. -/
structure Decimal (n : Nat) (ds : List Nat) : Prop where
  small : ∀ d ∈ ds, d < 10
  value : natOf ds = n
  some_digit : ds ≠ []
  zero : ∀ rest, ds = 0 :: rest → rest = []

theorem Decimal.single {n : Nat} (h : n < 10) : Decimal n [n] where
  small := by simpa using h
  value := by simp [natOf]
  some_digit := by simp
  zero := by
    rintro rest same
    exact (List.cons.inj same).2.symm

theorem Decimal.snoc {n d : Nat} {ds : List Nat} (h : Decimal n ds) (some_digit : n ≠ 0) (small : d < 10) :
    Decimal (n * 10 + d) (ds ++ [d]) where
  small := by
    intro x member
    rcases List.mem_append.mp member with earlier | last
    · exact h.small x earlier
    · rw [List.mem_singleton.mp last]
      exact small
  value := by rw [natOf_append, h.value]
  some_digit := by simp
  zero := by
    intro rest same
    cases ds with
    | nil => exact absurd rfl h.some_digit
    | cons e more =>
      obtain ⟨rfl, _⟩ := List.cons.inj same
      have alone := h.zero more rfl
      subst alone
      exact absurd h.value (Ne.symm some_digit)

theorem toDigits_decimal (n : Nat) :
    ∃ ds, Nat.toDigits 10 n = ds.map Nat.digitChar ∧ Decimal n ds := by
  induction n using Nat.strongRecOn with
  | ind n ih =>
    by_cases small : n < 10
    · exact ⟨[n], Nat.toDigits_of_lt_base small, .single small⟩
    · obtain ⟨ds, digits, decimal⟩ := ih (n / 10) (by omega)
      refine ⟨ds ++ [n % 10], ?_, ?_⟩
      · rw [Nat.toDigits_of_base_le (by decide) (by omega), digits, List.map_append]
        rfl
      · have whole : n / 10 * 10 + n % 10 = n := by omega
        have appended := decimal.snoc (d := n % 10) (by omega) (by omega)
        rwa [whole] at appended

theorem digitChar_byte {d : Nat} (h : d < 10) :
    (Nat.digitChar d).toNat < 128 ∧ UInt8.ofNat (Nat.digitChar d).toNat = UInt8.ofNat (0x30 + d) := by
  have table : ∀ m : Fin 10, (Nat.digitChar m).toNat < 128 ∧
      UInt8.ofNat (Nat.digitChar m).toNat = UInt8.ofNat (0x30 + m.val) := by decide
  exact table ⟨d, h⟩

theorem isDigitByte_digit {d : Nat} (h : d < 10) :
    isDigitByte (UInt8.ofNat (0x30 + d)) = true ∧ (UInt8.ofNat (0x30 + d)).toNat - 0x30 = d := by
  have table : ∀ m : Fin 10, isDigitByte (UInt8.ofNat (0x30 + m.val)) = true ∧
      (UInt8.ofNat (0x30 + m.val)).toNat - 0x30 = m.val := by decide
  exact table ⟨d, h⟩

theorem takeDigits_of_stops {rest : Bytes} (stops : Stops rest) : takeDigits rest = ([], rest) := by
  cases rest with
  | nil => rfl
  | cons b t =>
    have noDigit : isDigitByte b = false := by
      rcases stops b t rfl with rfl | rfl | rfl <;> decide
    simp [takeDigits, noDigit]

theorem takeDigits_digits {ds : List Nat} (small : ∀ d ∈ ds, d < 10) {rest : Bytes} (stops : Stops rest) :
    takeDigits (encoded (ds.map Nat.digitChar) ++ rest) = (ds, rest) := by
  induction ds with
  | nil => exact takeDigits_of_stops stops
  | cons d ds ih =>
    have digit := small d (List.mem_cons_self ..)
    have byte := digitChar_byte digit
    have read := isDigitByte_digit digit
    rw [List.map_cons, Text.encoded_ascii byte.1, byte.2, List.cons_append, takeDigits]
    simp only [read.1, read.2, if_true, ih fun x member => small x (List.mem_cons_of_mem _ member)]

/-! ### Numerals -/

theorem exponentPart?_of_stops {rest : Bytes} (stops : Stops rest) :
    exponentPart? rest = some (none, rest) := by
  cases rest with
  | nil => rfl
  | cons b t =>
    have other : (b == 0x65 || b == 0x45) = false := by
      rcases stops b t rfl with rfl | rfl | rfl <;> decide
    simp [exponentPart?, other]

theorem fractionPart?_of_stops {rest : Bytes} (stops : Stops rest) :
    fractionPart? rest = some (none, rest) := by
  cases rest with
  | nil => rfl
  | cons b t =>
    have other : (b == 0x2E) = false := by
      rcases stops b t rfl with rfl | rfl | rfl <;> decide
    simp [fractionPart?, other]

/-- A numeral behind its sign. -/
def unsigned? (negative : Bool) (input : Bytes) : Option (Numeral × Bytes) :=
  match takeDigits input with
  | ([], _) => none
  | (0 :: _ :: _, _) => none
  | (whole, rest) =>
    match fractionPart? rest with
    | none => none
    | some (fraction, rest') =>
      match exponentPart? rest' with
      | none => none
      | some (exponent, rest'') => some (⟨negative, whole, fraction, exponent⟩, rest'')

theorem numeral?_negative (input : Bytes) : numeral? (0x2D :: input) = unsigned? true input := rfl

theorem numeral?_positive {b : UInt8} (noSign : (b == 0x2D) = false) (input : Bytes) :
    numeral? (b :: input) = unsigned? false (b :: input) := by
  unfold numeral?
  simp only [noSign, Bool.false_eq_true, if_false]
  rfl

theorem unsigned?_whole {n : Nat} {ds : List Nat} (decimal : Decimal n ds) {rest : Bytes}
    (stops : Stops rest) (negative : Bool) :
    unsigned? negative (encoded (ds.map Nat.digitChar) ++ rest) =
      some (⟨negative, ds, none, none⟩, rest) := by
  unfold unsigned?
  rw [takeDigits_digits decimal.small stops]
  cases ds with
  | nil => exact absurd rfl decimal.some_digit
  | cons d more =>
    by_cases zero : d = 0
    · subst zero
      obtain rfl := decimal.zero more rfl
      simp only [fractionPart?_of_stops stops, exponentPart?_of_stops stops]
    · obtain ⟨d, rfl⟩ : ∃ m, d = m + 1 := ⟨d - 1, by omega⟩
      simp only [fractionPart?_of_stops stops, exponentPart?_of_stops stops]

/-- Digits show no sign. -/
theorem numeral?_digits {n : Nat} {ds : List Nat} (decimal : Decimal n ds) (rest : Bytes) :
    numeral? (encoded (ds.map Nat.digitChar) ++ rest) =
      unsigned? false (encoded (ds.map Nat.digitChar) ++ rest) := by
  cases ds with
  | nil => exact absurd rfl decimal.some_digit
  | cons d ds =>
    have digit := decimal.small d (List.mem_cons_self ..)
    have byte := digitChar_byte digit
    have table : ∀ m : Fin 10, (UInt8.ofNat (0x30 + m.val) == 0x2D) = false := by decide
    rw [List.map_cons, Text.encoded_ascii byte.1, byte.2, List.cons_append]
    exact numeral?_positive (table ⟨d, digit⟩) _

/-- Integers that are kept apart from other numbers. -/
def IsInt (n : Int) : Prop := lowestInt ≤ n ∧ n ≤ highestInt

theorem numeral?_intChars {n : Int} (kept : IsInt n) {rest : Bytes} (stops : Stops rest) :
    ∃ num, numeral? (encoded (intChars n) ++ rest) = some (num, rest) ∧ num.value? = some (.int n) := by
  obtain ⟨low, high⟩ := kept
  cases n with
  | ofNat k =>
    obtain ⟨ds, digits, decimal⟩ := toDigits_decimal k
    refine ⟨⟨false, ds, none, none⟩, ?_, ?_⟩
    · rw [intChars, digits, numeral?_digits decimal]
      exact unsigned?_whole decimal stops false
    · have low' : lowestInt ≤ (k : Int) := low
      have high' : (k : Int) ≤ highestInt := high
      simp [Numeral.value?, decimal.value, low', high']
  | negSucc k =>
    obtain ⟨ds, digits, decimal⟩ := toDigits_decimal (k + 1)
    refine ⟨⟨true, ds, none, none⟩, ?_, ?_⟩
    · rw [intChars, digits, Text.encoded_ascii (by decide), List.cons_append]
      exact (numeral?_negative _).trans (unsigned?_whole decimal stops true)
    · have written : Int.negSucc k = -((k + 1 : Nat) : Int) := rfl
      have notZero : ((k + 1 : Nat) == 0) = false := rfl
      rw [written] at low high ⊢
      simp only [Numeral.value?, decimal.value, if_true, Option.isNone_none, Bool.true_and, low, high,
        decide_true, notZero, Bool.and_false, Bool.not_false]

end Courier.Json
