import Courier.Proofs.Json.Numbers
import Courier.Proofs.Json.Strings
import Courier.Proofs.Table
/-!
JSON there and back.  `Plain` describes the values that the reader gives back as they were written: they
nest within a depth, their objects are tables, and every number is an integer that stays one.  The
induction is on how such a value is made, with any text behind it that no value goes on with; the reader
needs no more than two steps for each byte.
-/
namespace Courier.Json

open Text (encoded)

/-- Values without doubles that nest at most `depth` deep, all their integers being `whole`. -/
inductive Plain (whole : Int → Prop) : Nat → Json → Prop where
  | null {depth : Nat} : Plain whole depth .null
  | bool {depth : Nat} (b : Bool) : Plain whole depth (.bool b)
  | int {depth : Nat} {n : Int} (ok : whole n) : Plain whole depth (.int n)
  | str {depth : Nat} (s : String) : Plain whole depth (.str s)
  | arr {depth : Nat} {items : List Json} (each : ∀ x ∈ items, Plain whole depth x) :
      Plain whole (depth + 1) (.arr items)
  | obj {depth : Nat} {fields : Fields} (ordered : Table.Ordered fields)
      (each : ∀ f ∈ fields, Plain whole depth f.2) : Plain whole (depth + 1) (.obj fields)

theorem Plain.mono {whole whole' : Int → Prop} (wider : ∀ n, whole n → whole' n) {depth : Nat} {j : Json}
    (h : Plain whole depth j) : Plain whole' depth j := by
  induction h with
  | null => exact .null
  | bool b => exact .bool b
  | int ok => exact .int (wider _ ok)
  | str s => exact .str s
  | arr each ih => exact .arr ih
  | obj ordered each ih => exact .obj ordered ih

/-! ### Single values -/

/-- The first byte of a value is no blank, and closes nothing. -/
structure Opens (b : UInt8) : Prop where
  noSpace : isSpace b = false
  noBracket : (b == 0x5D) = false
  noBrace : (b == 0x7D) = false

theorem skipSpace_cons {b : UInt8} (noSpace : isSpace b = false) (rest : Bytes) :
    skipSpace (b :: rest) = b :: rest := by
  simp [skipSpace, noSpace]

/-- The bytes with which a number starts open no other value. -/
structure OpensNumber (b : UInt8) : Prop extends Opens b where
  noString : (b == 0x22) = false
  noArray : (b == 0x5B) = false
  noObject : (b == 0x7B) = false
  noNull : (b == 0x6E) = false
  noTrue : (b == 0x74) = false
  noFalse : (b == 0x66) = false

theorem opensNumber_sign : OpensNumber 0x2D := by
  constructor <;> first | decide | (constructor <;> decide)

theorem opensNumber_digit {d : Nat} (h : d < 10) : OpensNumber (UInt8.ofNat (0x30 + d)) := by
  have table : ∀ m : Fin 10, isSpace (UInt8.ofNat (0x30 + m.val)) = false ∧
      [(0x5D : UInt8), 0x7D, 0x22, 0x5B, 0x7B, 0x6E, 0x74, 0x66].all
        (fun x => UInt8.ofNat (0x30 + m.val) != x) = true := by decide
  obtain ⟨noSpace, others⟩ := table ⟨d, h⟩
  simp only [List.all_cons, List.all_nil, Bool.and_eq_true, bne, Bool.not_eq_true', Bool.and_true] at others
  obtain ⟨bracket, brace, string, array, object, null, true_, false_⟩ := others
  exact ⟨⟨noSpace, bracket, brace⟩, string, array, object, null, true_, false_⟩

theorem intChars_opens (n : Int) : ∃ b t, encoded (intChars n) = b :: t ∧ OpensNumber b := by
  cases n with
  | ofNat k =>
    obtain ⟨ds, digits, decimal⟩ := toDigits_decimal k
    cases ds with
    | nil => exact absurd rfl decimal.some_digit
    | cons d ds =>
      have digit := decimal.small d (List.mem_cons_self ..)
      have byte := digitChar_byte digit
      refine ⟨_, encoded (ds.map Nat.digitChar), ?_, opensNumber_digit digit⟩
      rw [intChars, digits, List.map_cons, Text.encoded_ascii byte.1, byte.2]
  | negSucc k =>
    refine ⟨0x2D, encoded (Nat.toDigits 10 (k + 1)), ?_, opensNumber_sign⟩
    rw [intChars, Text.encoded_ascii (by decide)]
    rfl

section

variable (n depth : Nat)

theorem value?_number {b : UInt8} (opens : OpensNumber b) (t : Bytes) :
    value? (n + 1) depth (b :: t) =
      (numeral? (b :: t)).bind fun r => r.1.value?.map fun v => (v, r.2) := by
  rw [value?.eq_def]
  simp only [skipSpace_cons opens.noSpace, opens.noString, opens.noArray, opens.noObject, opens.noNull,
    opens.noTrue, opens.noFalse, Bool.false_eq_true, if_false]
  cases numeral? (b :: t) <;> rfl

theorem value?_int {k : Int} (kept : IsInt k) {rest : Bytes} (stops : Stops rest) :
    value? (n + 1) depth (encoded (intChars k) ++ rest) = some (.int k, rest) := by
  obtain ⟨b, t, bytes, opens⟩ := intChars_opens k
  obtain ⟨num, read, value⟩ := numeral?_intChars kept stops
  rw [bytes, List.cons_append] at read ⊢
  rw [value?_number n depth opens, read, Option.bind_some, value, Option.map_some]

theorem value?_string (s : String) (rest : Bytes) :
    value? (n + 1) depth (0x22 :: (encoded (s.toList.flatMap escapeChar) ++ 0x22 :: rest)) =
      some (.str s, rest) := by
  rw [value?.eq_def]
  simp only [skipSpace_cons (by decide : isSpace 0x22 = false), beq_self_eq_true, if_true, string?_quoted,
    Option.map_some]

theorem value?_word (b : UInt8) (word : Bytes) {j : Json} (rest : Bytes)
    (read : ∀ input, value? (n + 1) depth (b :: input) = (dropWord? word input).map fun r => (j, r)) :
    value? (n + 1) depth (b :: (word ++ rest)) = some (j, rest) := by
  have found : word.isPrefixOf (word ++ rest) = true := by
    rw [List.isPrefixOf_iff_prefix]
    exact List.prefix_append _ _
  rw [read, dropWord?, if_pos found, List.drop_left]
  rfl

theorem value?_null (rest : Bytes) :
    value? (n + 1) depth (encoded ['n', 'u', 'l', 'l'] ++ rest) = some (.null, rest) :=
  value?_word n depth 0x6E [0x75, 0x6C, 0x6C] rest fun input => by
    rw [value?.eq_def]
    rfl

theorem value?_true (rest : Bytes) :
    value? (n + 1) depth (encoded ['t', 'r', 'u', 'e'] ++ rest) = some (.bool true, rest) :=
  value?_word n depth 0x74 [0x72, 0x75, 0x65] rest fun input => by
    rw [value?.eq_def]
    rfl

theorem value?_false (rest : Bytes) :
    value? (n + 1) depth (encoded ['f', 'a', 'l', 's', 'e'] ++ rest) = some (.bool false, rest) :=
  value?_word n depth 0x66 [0x61, 0x6C, 0x73, 0x65] rest fun input => by
    rw [value?.eq_def]
    rfl

end

theorem encoded_quotedChars (s : String) :
    encoded (quotedChars s) = 0x22 :: (encoded (s.toList.flatMap escapeChar) ++ [0x22]) := by
  rw [quotedChars, List.cons_append, Text.encoded_ascii (by decide), Text.encoded_append,
    Text.encoded_ascii (by decide)]
  rfl

/-- How the text of a value begins. -/
theorem chars_opens {whole : Int → Prop} {depth : Nat} {j : Json} (h : Plain whole depth j) :
    ∃ b t, encoded (chars j) = b :: t ∧ Opens b := by
  have opened : ∀ {c : Char} {cs : List Char}, c.toNat < 128 → Opens (UInt8.ofNat c.toNat) →
      ∃ b t, encoded (c :: cs) = b :: t ∧ Opens b :=
    fun ascii opens => ⟨_, _, Text.encoded_ascii ascii _, opens⟩
  cases h with
  | null => exact opened (by decide) (by constructor <;> decide)
  | bool b =>
    cases b with
    | true => exact opened (by decide) (by constructor <;> decide)
    | false => exact opened (by decide) (by constructor <;> decide)
  | int ok =>
    obtain ⟨b, t, bytes, opens⟩ := intChars_opens _
    exact ⟨b, t, by rw [chars, bytes], opens.toOpens⟩
  | str s => exact opened (by decide) (by constructor <;> decide)
  | @arr _ items each =>
    cases items with
    | nil => exact opened (by decide) (by constructor <;> decide)
    | cons x xs => exact opened (by decide) (by constructor <;> decide)
  | @obj _ fields ordered each =>
    cases fields with
    | nil => exact opened (by decide) (by constructor <;> decide)
    | cons f fs => exact opened (by decide) (by constructor <;> decide)

/-! ### Arrays and objects -/

/-- The reader gives this value back, with any text behind it that no value goes on with. -/
def ReadsBack (depth : Nat) (j : Json) : Prop :=
  ∀ n rest, 2 * (encoded (chars j)).length ≤ n → Stops rest →
    value? n depth (encoded (chars j) ++ rest) = some (j, rest)

theorem encoded_moreItems_nil : encoded (moreItems []) = [0x5D] := by
  rw [moreItems, Text.encoded_ascii (by decide)]
  rfl

theorem encoded_moreItems_cons (x : Json) (xs : List Json) :
    encoded (moreItems (x :: xs)) = 0x2C :: (encoded (chars x) ++ encoded (moreItems xs)) := by
  rw [moreItems, List.cons_append, Text.encoded_ascii (by decide), Text.encoded_append]
  rfl

theorem stops_moreItems (xs : List Json) (rest : Bytes) : Stops (encoded (moreItems xs) ++ rest) := by
  cases xs with
  | nil =>
    rw [encoded_moreItems_nil]
    exact .cons (.inr (.inl rfl))
  | cons x xs =>
    rw [encoded_moreItems_cons]
    exact .cons (.inl rfl)

/-- Items behind others, up to the closing bracket. -/
theorem items?_reads {depth : Nat} (rest : Bytes) (xs : List Json) :
    ∀ (x : Json) (n : Nat) (acc : List Json), (∀ y ∈ x :: xs, ReadsBack depth y) →
      2 * (encoded (chars x) ++ encoded (moreItems xs)).length < n →
      items? n depth acc (encoded (chars x) ++ (encoded (moreItems xs) ++ rest)) =
        some (acc.reverse ++ x :: xs, rest) := by
  induction xs with
  | nil =>
    intro x n acc reads enough
    obtain ⟨n, rfl⟩ : ∃ m, n = m + 1 := ⟨n - 1, by omega⟩
    rw [List.length_append] at enough
    have first := reads x (List.mem_cons_self ..) n _ (by omega) (stops_moreItems [] rest)
    rw [items?.eq_def]
    simp only [first]
    simp only [encoded_moreItems_nil, List.cons_append, List.nil_append,
      skipSpace_cons (by decide : isSpace 0x5D = false), beq_self_eq_true, if_true, List.reverse_cons]
  | cons y ys ih =>
    intro x n acc reads enough
    obtain ⟨n, rfl⟩ : ∃ m, n = m + 1 := ⟨n - 1, by omega⟩
    rw [encoded_moreItems_cons, List.length_append, List.length_cons] at enough
    have first := reads x (List.mem_cons_self ..) n _ (by omega) (stops_moreItems (y :: ys) rest)
    have more := ih y n (x :: acc) (fun z member => reads z (List.mem_cons_of_mem _ member)) (by omega)
    have comma : ((0x2C : UInt8) == 0x5D) = false := by decide
    rw [items?.eq_def]
    simp only [first]
    simp only [encoded_moreItems_cons, List.cons_append, List.append_assoc,
      skipSpace_cons (by decide : isSpace 0x2C = false), comma, beq_self_eq_true, Bool.false_eq_true,
      if_false, if_true, more, List.reverse_cons, List.nil_append]

theorem readsBack_arr {depth : Nat} {items : List Json} (each : ∀ x ∈ items, ReadsBack depth x)
    (opens : ∀ x ∈ items, ∃ b t, encoded (chars x) = b :: t ∧ Opens b) :
    ReadsBack (depth + 1) (.arr items) := by
  intro n rest enough stops
  have bracket : ∀ input, skipSpace (0x5B :: input) = 0x5B :: input :=
    skipSpace_cons (by decide)
  have noString : ((0x5B : UInt8) == 0x22) = false := by decide
  cases items with
  | nil =>
    have bytes : encoded (chars (.arr [])) = [0x5B, 0x5D] := by
      rw [chars, Text.encoded_ascii (by decide), Text.encoded_ascii (by decide)]
      rfl
    rw [bytes] at enough ⊢
    obtain ⟨n, rfl⟩ : ∃ m, n = m + 1 := ⟨n - 1, by simp at enough; omega⟩
    rw [value?.eq_def]
    simp only [List.cons_append, List.nil_append, bracket, noString, beq_self_eq_true,
      skipSpace_cons (by decide : isSpace 0x5D = false), Bool.false_eq_true, if_false, if_true]
  | cons x xs =>
    have bytes : encoded (chars (.arr (x :: xs))) =
        0x5B :: (encoded (chars x) ++ encoded (moreItems xs)) := by
      rw [chars, List.cons_append, Text.encoded_ascii (by decide), Text.encoded_append]
      rfl
    rw [bytes, List.length_cons] at enough
    obtain ⟨n, rfl⟩ : ∃ m, n = m + 1 := ⟨n - 1, by omega⟩
    obtain ⟨b, t, start, opensX⟩ := opens x (List.mem_cons_self ..)
    have read := items?_reads rest xs x n [] each (by omega)
    rw [bytes, List.cons_append, List.append_assoc, value?.eq_def]
    simp only [bracket, noString, beq_self_eq_true, Bool.false_eq_true, if_false, if_true, read]
    rw [start, List.cons_append, skipSpace_cons opensX.noSpace]
    simp only [opensX.noBracket, Bool.false_eq_true, if_false, List.reverse_nil, List.nil_append]

theorem encoded_fieldChars (f : String × Json) :
    encoded (fieldChars f) =
      0x22 :: (encoded (f.1.toList.flatMap escapeChar) ++ 0x22 :: 0x3A :: encoded (chars f.2)) := by
  obtain ⟨k, v⟩ := f
  rw [fieldChars, Text.encoded_append, encoded_quotedChars, Text.encoded_ascii (by decide),
    List.cons_append, List.append_assoc]
  rfl

theorem encoded_moreFields_nil : encoded (moreFields []) = [0x7D] := by
  rw [moreFields, Text.encoded_ascii (by decide)]
  rfl

theorem encoded_moreFields_cons (f : String × Json) (fs : List (String × Json)) :
    encoded (moreFields (f :: fs)) = 0x2C :: (encoded (fieldChars f) ++ encoded (moreFields fs)) := by
  rw [moreFields, List.cons_append, Text.encoded_ascii (by decide), Text.encoded_append]
  rfl

/-- One field, with what comes after its value. -/
theorem fields?_field {depth n : Nat} {acc : Fields} {f : String × Json} (reads : ReadsBack depth f.2)
    (enough : 2 * (encoded (chars f.2)).length ≤ n) {c : UInt8} {rest : Bytes} (stops : Stops (c :: rest))
    (noSpace : isSpace c = false) :
    fields? (n + 1) depth acc (encoded (fieldChars f) ++ c :: rest) =
      if c == 0x7D then some (Table.insert f.1 f.2 acc, rest)
      else if c == 0x2C then fields? n depth (Table.insert f.1 f.2 acc) rest
      else none := by
  have value := reads n (c :: rest) enough stops
  have name := string?_quoted f.1 (0x3A :: (encoded (chars f.2) ++ c :: rest))
  rw [encoded_fieldChars, List.cons_append, List.append_assoc, fields?.eq_def]
  simp only [skipSpace_cons (by decide : isSpace 0x22 = false), beq_self_eq_true, if_true, List.cons_append,
    name, skipSpace_cons (by decide : isSpace 0x3A = false), value, skipSpace_cons noSpace]

/-- Fields behind others, up to the closing brace. -/
theorem fields?_reads {depth : Nat} (rest : Bytes) (fs : List (String × Json)) :
    ∀ (f : String × Json) (n : Nat) (acc : Fields), (∀ g ∈ f :: fs, ReadsBack depth g.2) →
      Table.Ordered (acc ++ f :: fs) →
      2 * (encoded (fieldChars f) ++ encoded (moreFields fs)).length < n →
      fields? n depth acc (encoded (fieldChars f) ++ (encoded (moreFields fs) ++ rest)) =
        some (acc ++ f :: fs, rest) := by
  have shorter : ∀ f : String × Json, (encoded (chars f.2)).length < (encoded (fieldChars f)).length := by
    intro f
    rw [encoded_fieldChars, List.length_cons, List.length_append, List.length_cons, List.length_cons]
    omega
  induction fs with
  | nil =>
    intro f n acc reads ordered enough
    obtain ⟨n, rfl⟩ : ∃ m, n = m + 1 := ⟨n - 1, by omega⟩
    rw [List.length_append] at enough
    have key := shorter f
    rw [encoded_moreFields_nil, List.singleton_append,
      fields?_field (reads f (List.mem_cons_self ..)) (by omega) (.cons (.inr (.inr rfl))) (by decide),
      Table.insert_last ordered.behind]
    exact if_pos rfl
  | cons g gs ih =>
    intro f n acc reads ordered enough
    obtain ⟨n, rfl⟩ : ∃ m, n = m + 1 := ⟨n - 1, by omega⟩
    rw [encoded_moreFields_cons, List.length_append, List.length_cons] at enough
    have key := shorter f
    have comma : ((0x2C : UInt8) == 0x7D) = false := by decide
    have reordered : Table.Ordered ((acc ++ [f]) ++ g :: gs) := by
      rwa [List.append_assoc, List.singleton_append]
    have more := ih g n (acc ++ [f]) (fun x member => reads x (List.mem_cons_of_mem _ member)) reordered
      (by omega)
    rw [encoded_moreFields_cons, List.cons_append, List.append_assoc,
      fields?_field (reads f (List.mem_cons_self ..)) (by omega) (.cons (.inl rfl)) (by decide),
      Table.insert_last ordered.behind]
    simp only [comma, beq_self_eq_true, Bool.false_eq_true, if_false, if_true, more, List.append_assoc,
      List.singleton_append]

theorem readsBack_obj {depth : Nat} {fields : Fields} (ordered : Table.Ordered fields)
    (each : ∀ f ∈ fields, ReadsBack depth f.2) : ReadsBack (depth + 1) (.obj fields) := by
  intro n rest enough stops
  have brace : ∀ input, skipSpace (0x7B :: input) = 0x7B :: input := skipSpace_cons (by decide)
  have noString : ((0x7B : UInt8) == 0x22) = false := by decide
  have noArray : ((0x7B : UInt8) == 0x5B) = false := by decide
  cases fields with
  | nil =>
    have bytes : encoded (chars (.obj [])) = [0x7B, 0x7D] := by
      rw [chars, Text.encoded_ascii (by decide), Text.encoded_ascii (by decide)]
      rfl
    rw [bytes] at enough ⊢
    obtain ⟨n, rfl⟩ : ∃ m, n = m + 1 := ⟨n - 1, by simp at enough; omega⟩
    rw [value?.eq_def]
    simp only [List.cons_append, List.nil_append, brace, noString, noArray, beq_self_eq_true,
      skipSpace_cons (by decide : isSpace 0x7D = false), Bool.false_eq_true, if_false, if_true]
  | cons f fs =>
    have bytes : encoded (chars (.obj (f :: fs))) =
        0x7B :: (encoded (fieldChars f) ++ encoded (moreFields fs)) := by
      rw [chars, List.cons_append, Text.encoded_ascii (by decide), Text.encoded_append]
      rfl
    rw [bytes, List.length_cons] at enough
    obtain ⟨n, rfl⟩ : ∃ m, n = m + 1 := ⟨n - 1, by omega⟩
    have read := fields?_reads rest fs f n [] each ordered (by omega)
    have quoted : ∃ t, encoded (fieldChars f) = 0x22 :: t := ⟨_, encoded_fieldChars f⟩
    obtain ⟨t, start⟩ := quoted
    have notClosed : ((0x22 : UInt8) == 0x7D) = false := by decide
    rw [bytes, List.cons_append, List.append_assoc, value?.eq_def]
    simp only [brace, noString, noArray, beq_self_eq_true, Bool.false_eq_true, if_false, if_true, read]
    rw [start, List.cons_append, skipSpace_cons (by decide : isSpace 0x22 = false)]
    simp only [notClosed, Bool.false_eq_true, if_false, List.nil_append]

/-! ### Every plain value -/

theorem readsBack_of_plain {whole : Int → Prop} (kept : ∀ n, whole n → IsInt n) {depth : Nat} {j : Json}
    (h : Plain whole depth j) : ReadsBack depth j := by
  have written : ∀ {d : Nat} {x : Json} {n : Nat}, Plain whole d x → 2 * (encoded (chars x)).length ≤ n →
      ∃ m, n = m + 1 := by
    intro d x n plain enough
    obtain ⟨b, t, bytes, _⟩ := chars_opens plain
    rw [bytes, List.length_cons] at enough
    exact ⟨n - 1, by omega⟩
  induction h with
  | null =>
    intro n rest enough stops
    obtain ⟨n, rfl⟩ := written (d := 0) .null enough
    exact value?_null n _ rest
  | bool b =>
    intro n rest enough stops
    obtain ⟨n, rfl⟩ := written (d := 0) (.bool b) enough
    cases b with
    | true => exact value?_true n _ rest
    | false => exact value?_false n _ rest
  | int ok =>
    intro n rest enough stops
    obtain ⟨n, rfl⟩ := written (d := 0) (.int ok) enough
    exact value?_int n _ (kept _ ok) stops
  | str s =>
    intro n rest enough stops
    obtain ⟨n, rfl⟩ := written (d := 0) (.str s) enough
    rw [chars, encoded_quotedChars, List.cons_append, List.append_assoc]
    exact value?_string n _ s rest
  | arr each ih => exact readsBack_arr ih fun x member => chars_opens (each x member)
  | obj ordered each ih => exact readsBack_obj ordered ih

theorem bytes_eq_encoded (j : Json) : bytes j = encoded (chars j) := by
  rw [bytes, text, Text.utf8_ofList]

/-- A plain value that nests no deeper than the reader goes is read back from its text. -/
theorem parse?_bytes {j : Json} (h : Plain IsInt nestingLimit j) : parse? (bytes j) = some j := by
  have read := readsBack_of_plain (fun _ kept => kept) h (fuelFor (encoded (chars j))) []
    (by unfold fuelFor; omega) .nil
  rw [List.append_nil] at read
  unfold parse? parseStart?
  rw [bytes_eq_encoded, read]
  rfl

end Courier.Json
