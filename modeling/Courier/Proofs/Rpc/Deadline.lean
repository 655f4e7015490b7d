import Courier.Rpc.Deadline
import Courier.Proofs.Text
/-!
Deadlines as text.  `Denotes` is the grammar: one to eight digits and a unit.  The reader finds a span in
exactly the texts of the grammar, and it is the one that the text denotes.  Every other text should be called
malformed; the one exception is a short text whose last character has several bytes, which the reader cuts
into.  The writer finds a text of the grammar for every span of fewer than a hundred million hours.
-/
namespace Courier.Rpc

theorem TimeUnit.ofSymbol?_iff {c : Char} {unit : TimeUnit} : ofSymbol? c = some unit ↔ unit.symbol = c := by
  constructor
  · intro found
    simpa using List.find?_some found
  · rintro rfl
    cases unit <;> rfl

namespace Deadline

/-- The text is digits and a unit, and stands for this span. -/
inductive Denotes : String → Duration → Prop where
  | count (digits : List Char) (unit : TimeUnit) (some_digit : 1 ≤ digits.length) (few : digits.length ≤ 8)
      (decimal : ∀ c ∈ digits, Text.isDigit c = true) :
      Denotes (String.ofList (digits ++ [unit.symbol])) ⟨Text.natOfDigits digits * unit.nanos⟩

theorem printable_count {digits : List Char} (unit : TimeUnit)
    (decimal : ∀ c ∈ digits, Text.isDigit c = true) :
    ∀ c ∈ (String.ofList (digits ++ [unit.symbol])).toList, 0x20 ≤ c.toNat ∧ c.toNat < 0x7F := by
  intro c member
  rw [String.toList_ofList, List.mem_append, List.mem_singleton] at member
  rcases member with digit | rfl
  · have range := decimal c digit
    simp only [Text.isDigit, Bool.and_eq_true, decide_eq_true_eq] at range
    have first : '0'.toNat ≤ c.toNat := range.1
    have last : c.toNat ≤ '9'.toNat := range.2
    exact ⟨Nat.le_trans (by decide) first, Nat.lt_of_le_of_lt last (by decide)⟩
  · cases unit <;> decide

/-- A text of the grammar is as long as it looks. -/
theorem utf8ByteSize_count {digits : List Char} (unit : TimeUnit)
    (decimal : ∀ c ∈ digits, Text.isDigit c = true) :
    (String.ofList (digits ++ [unit.symbol])).utf8ByteSize = digits.length + 1 := by
  have ascii := fun c member => Nat.lt_trans (printable_count unit decimal c member).2 (by decide : 0x7F < 128)
  rw [Text.utf8ByteSize_ascii ascii, String.toList_ofList, List.length_append, List.length_singleton]

theorem parse_of_denotes {raw : String} {d : Duration} (h : Denotes raw d) : parse raw = .span d := by
  cases h with
  | count digits unit some_digit few decimal =>
    have size := utf8ByteSize_count unit decimal
    have inside : (decide (digits.length + 1 < 2) || decide (9 < digits.length + 1)) = false := by
      simp only [Bool.or_eq_false_iff, decide_eq_false_iff_not]
      omega
    have reversed : (String.ofList (digits ++ [unit.symbol])).toList.reverse =
        unit.symbol :: digits.reverse := by
      rw [String.toList_ofList, List.reverse_append]
      rfl
    have all : digits.reverse.all Text.isDigit = true := by
      rw [List.all_reverse]
      exact List.all_eq_true.mpr decimal
    have ascii : isAscii unit.symbol = true := by cases unit <;> rfl
    simp only [parse, size, inside, reversed, ascii, all, TimeUnit.ofSymbol?_iff.mpr rfl,
      Bool.not_true, Bool.false_eq_true, if_false, List.reverse_reverse]

theorem denotes_of_parse {raw : String} {d : Duration} (h : parse raw = .span d) : Denotes raw d := by
  unfold parse at h
  split at h
  · cases h
  next inside =>
  split at h
  · cases h
  next last front reversed =>
  split at h
  · cases h
  split at h
  · cases h
  next digits =>
  split at h
  · next unit found =>
    obtain rfl := TimeUnit.ofSymbol?_iff.mp found
    cases h
    have decimal : ∀ c ∈ front.reverse, Text.isDigit c = true := by
      simpa using digits
    have text : raw = String.ofList (front.reverse ++ [unit.symbol]) := by
      rw [← String.toList_inj, String.toList_ofList, ← List.reverse_cons, ← reversed, List.reverse_reverse]
    have size := utf8ByteSize_count unit decimal
    rw [← text] at size
    rw [text]
    simp only [Bool.or_eq_true, decide_eq_true_eq, not_or, Nat.not_lt] at inside
    exact .count front.reverse unit (by omega) (by omega) decimal
  · cases h

/-- The reader reads the grammar. -/
theorem parse_span_iff {raw : String} {d : Duration} : parse raw = .span d ↔ Denotes raw d :=
  ⟨denotes_of_parse, parse_of_denotes⟩

/-! ### Texts outside the grammar -/

/-- What the grammar makes of a text: the span that it denotes, or nothing if it denotes none. -/
inductive Grammatical (raw : String) : Reading → Prop where
  | denoting {d : Duration} (denotes : Denotes raw d) : Grammatical raw (.span d)
  | meaningless (nothing : ∀ d, ¬ Denotes raw d) : Grammatical raw .malformed

/-- A text of two to nine bytes that does not have a character boundary before its last byte. -/
structure Uncuttable (raw : String) : Prop where
  long : 2 ≤ raw.utf8ByteSize
  short : raw.utf8ByteSize ≤ 9
  wide : ∃ front last, raw.toList = front ++ [last] ∧ 128 ≤ last.toNat

theorem parse_broken_iff {raw : String} : parse raw = .broken ↔ Uncuttable raw := by
  have ascii_iff : ∀ c, isAscii c = false ↔ 128 ≤ c.toNat := by
    intro c
    rw [isAscii, decide_eq_false_iff_not, Nat.not_lt]
  unfold parse
  constructor
  · intro broken
    split at broken
    · cases broken
    next inside =>
    split at broken
    · cases broken
    next last front reversed =>
    split at broken
    · next wide =>
      simp only [Bool.or_eq_true, decide_eq_true_eq, not_or, Nat.not_lt] at inside
      refine ⟨inside.1, inside.2, front.reverse, last, ?_, (ascii_iff last).mp (by simpa using wide)⟩
      rw [← List.reverse_cons, ← reversed, List.reverse_reverse]
    split at broken
    · cases broken
    split at broken <;> cases broken
  · rintro ⟨long, short, front, last, text, wide⟩
    have inside : (decide (raw.utf8ByteSize < 2) || decide (9 < raw.utf8ByteSize)) = false := by
      simp only [Bool.or_eq_false_iff, decide_eq_false_iff_not]
      omega
    have reversed : raw.toList.reverse = last :: front.reverse := by
      rw [text, List.reverse_append, List.reverse_singleton, List.singleton_append]
    simp only [inside, reversed, (ascii_iff last).mpr wide, Bool.not_false, Bool.false_eq_true, if_false,
      if_true]

/-- The reader goes by the grammar exactly for those texts that it can cut before their last byte; the
others denote nothing, and break it. -/
theorem parse_grammatical_iff (raw : String) :
    (Grammatical raw (parse raw) ↔ ¬ Uncuttable raw) ∧
      (Uncuttable raw → parse raw = .broken ∧ ∀ d, ¬ Denotes raw d) := by
  have breaks : Uncuttable raw → parse raw = .broken ∧ ∀ d, ¬ Denotes raw d := by
    intro uncuttable
    have broken := parse_broken_iff.mpr uncuttable
    refine ⟨broken, fun d denotes => ?_⟩
    rw [parse_of_denotes denotes] at broken
    cases broken
  refine ⟨⟨fun grammatical uncuttable => ?_, fun cuttable => ?_⟩, breaks⟩
  · rw [(breaks uncuttable).1] at grammatical
    cases grammatical
  · cases read : parse raw with
    | span d => exact .denoting (denotes_of_parse read)
    | malformed =>
      refine .meaningless fun d denotes => ?_
      rw [parse_of_denotes denotes] at read
      cases read
    | broken => exact absurd (parse_broken_iff.mp read) cuttable

/-- An accent in the last place breaks the reader, though the text only has no unit. -/
theorem accent_breaks_reader : ¬ ∀ raw, Grammatical raw (parse raw) := by
  intro all
  have uncuttable : Uncuttable "1é" := ⟨by decide, by decide, ['1'], 'é', by decide, by decide⟩
  have broken := parse_broken_iff.mpr uncuttable
  have grammatical := all "1é"
  rw [broken] at grammatical
  cases grammatical

/-! ### Writing -/

theorem natOfDigits_toDigits (n : Nat) : Text.natOfDigits (Nat.toDigits 10 n) = n := by
  have same : Text.natOfDigits (Nat.toDigits 10 n) = Nat.ofDigitChars 10 (Nat.toDigits 10 n) 0 := by
    unfold Text.natOfDigits Nat.ofDigitChars
    congr 1
    funext m c
    rw [Nat.mul_comm]
    rfl
  rw [same, Nat.ofDigitChars_toDigits (by decide) (by decide)]

/-- A count that can be written, with its unit, is a text of the grammar. -/
theorem denotes_toDigits {n : Nat} (few : n ≤ countLimit) (unit : TimeUnit) :
    Denotes (String.ofList (Nat.toDigits 10 n ++ [unit.symbol])) ⟨n * unit.nanos⟩ := by
  have digits : ∀ c ∈ Nat.toDigits 10 n, Text.isDigit c = true :=
    fun c member => Nat.isDigit_of_mem_toDigits (by decide) (by decide) member
  have short : (Nat.toDigits 10 n).length ≤ 8 :=
    (Nat.length_toDigits_le_iff (by decide) (by decide)).mpr (Nat.lt_of_le_of_lt few (by decide))
  have denotes := Denotes.count (Nat.toDigits 10 n) unit Nat.length_toDigits_pos short digits
  rwa [natOfDigits_toDigits] at denotes

theorem units_ascend : units.Pairwise fun fine coarse => fine.nanos < coarse.nanos := by decide

theorem mem_units (unit : TimeUnit) : unit ∈ units := by cases unit <;> decide

/-- Spans that can be written have fewer hours than this. -/
def hourLimit : Nat := 100000000

/-- Exactly the spans of fewer hours can be written. -/
theorem write?_isSome_iff {d : Duration} :
    (write? d).isSome = true ↔ d.nanos < hourLimit * TimeUnit.hour.nanos := by
  have hours : d.nanos / TimeUnit.hour.nanos ≤ countLimit ↔ d.nanos < hourLimit * TimeUnit.hour.nanos := by
    rw [← Nat.div_lt_iff_lt_mul (by decide), ← Nat.lt_succ_iff]
    rfl
  rw [write?, Option.isSome_map, List.find?_isSome, ← hours]
  constructor
  · rintro ⟨unit, _, fits⟩
    have coarsest : unit.nanos ≤ TimeUnit.hour.nanos := by cases unit <;> decide
    have pos : 0 < unit.nanos := by cases unit <;> decide
    exact Nat.le_trans (Nat.div_le_div_left coarsest pos) (of_decide_eq_true fits)
  · exact fun fits => ⟨.hour, mem_units .hour, decide_eq_true fits⟩

/-- From the writer to the reader: `d` is written as `text` in the unit `unit`, and that is read as `d'`. -/
structure Crosses (d : Duration) (text : String) (unit : TimeUnit) (d' : Duration) : Prop where
  written : write? d = some text
  counted : ∃ digits, text = String.ofList (digits ++ [unit.symbol])
  /-- In no finer unit would eight digits do. -/
  finest : ∀ finer : TimeUnit, finer.nanos < unit.nanos → countLimit < d.nanos / finer.nanos
  accepted : parse text = .span d'
  no_later : d'.nanos ≤ d.nanos
  close : d.nanos - d'.nanos < unit.nanos
  same_of_few : d.nanos ≤ countLimit → d' = d

/-- Every span of few enough hours gets across. -/
theorem exists_crosses {d : Duration} (short : d.nanos < hourLimit * TimeUnit.hour.nanos) :
    ∃ text unit d', Crosses d text unit d' := by
  obtain ⟨text, written⟩ := Option.isSome_iff_exists.mp (write?_isSome_iff.mpr short)
  obtain ⟨unit, chosen, rfl⟩ := Option.map_eq_some_iff.mp written
  have few : d.nanos / unit.nanos ≤ countLimit := by simpa using List.find?_some chosen
  obtain ⟨_, front, back, order, refused⟩ := List.find?_eq_some_iff_append.mp chosen
  have ascend := units_ascend
  rw [order, List.pairwise_append, List.pairwise_cons] at ascend
  have finest : ∀ finer : TimeUnit, finer.nanos < unit.nanos → countLimit < d.nanos / finer.nanos := by
    intro finer smaller
    have listed := mem_units finer
    rw [order, List.mem_append, List.mem_cons] at listed
    rcases listed with before | rfl | after
    · simpa using refused finer before
    · exact absurd smaller (Nat.lt_irrefl _)
    · exact absurd (ascend.2.1.1 finer after) (Nat.lt_asymm smaller)
  have pos : 0 < unit.nanos := by cases unit <;> decide
  refine ⟨_, unit, ⟨d.nanos / unit.nanos * unit.nanos⟩, {
    written := written
    counted := ⟨_, rfl⟩
    finest := finest
    accepted := parse_of_denotes (denotes_toDigits few unit)
    no_later := Nat.div_mul_le_self ..
    close := ?_
    same_of_few := fun small => ?_ }⟩
  · have whole := Nat.div_add_mod' d.nanos unit.nanos
    have rest := Nat.mod_lt d.nanos pos
    dsimp only
    omega
  · -- with so few nanoseconds there is nothing finer than the unit
    have single : unit.nanos = 1 := by
      refine Nat.le_antisymm (Nat.le_of_not_lt fun coarse => ?_) pos
      have many := finest .nano coarse
      rw [TimeUnit.nanos, Nat.div_one] at many
      exact absurd small (Nat.not_le_of_lt many)
    rw [single, Nat.div_one, Nat.mul_one]

end Deadline
end Courier.Rpc
