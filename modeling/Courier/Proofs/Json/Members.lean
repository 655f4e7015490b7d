import Courier.Json.Lexeme
import Courier.Proofs.Json.RoundTrip
/-!
The members of an object that was written.  Whatever the reader reads, the lexer goes over and stops where
the reader stops; so a value that reads back is cut off whole, and the members of an object text are the
names and the texts of its fields, in the order written.
-/
namespace Courier.Json

open Text (encoded)

/-! ### What the reader reads, the lexer skips -/

theorem skipString_quad {input rest : Bytes} {n : Nat} (read : hexQuad? input = some (n, rest)) :
    skipString (0x5C :: 0x75 :: input) = skipString rest := by
  unfold hexQuad? at read
  split at read
  · next a b c d rest' =>
    split at read
    · next w x y z ha hb hc hd =>
      obtain ⟨_, rfl⟩ := Prod.mk.inj (Option.some.inj read)
      rw [skipString.eq_def]
      simp [ha, hb, hc, hd]
    · cases read
  · cases read

theorem skipString_unicode {input rest : Bytes} {c : Char} (read : unicodeEscape? input = some (c, rest)) :
    skipString (0x5C :: 0x75 :: input) = skipString rest := by
  unfold unicodeEscape? at read
  split at read
  · cases read
  · next n after first =>
    rw [skipString_quad first]
    split at read
    · split at read
      · next b e after' =>
        split at read
        · next escape =>
          obtain ⟨rfl, rfl⟩ : b = 0x5C ∧ e = 0x75 := by simpa using escape
          split at read
          · next m last second =>
            split at read
            · obtain ⟨_, rfl⟩ := Prod.mk.inj (Option.some.inj read)
              exact skipString_quad second
            · cases read
          · cases read
        · cases read
      · cases read
    · split at read
      · cases read
      · obtain ⟨_, rfl⟩ := Prod.mk.inj (Option.some.inj read)
        rfl

theorem skipString_of_stringBody {n : Nat} {acc input content rest : Bytes}
    (read : stringBody acc n input = some (content, rest)) : skipString input = some rest := by
  induction n generalizing acc input with
  | zero =>
    rw [stringBody] at read
    cases read
  | succ n ih =>
    cases input with
    | nil =>
      rw [stringBody] at read
      cases read
    | cons b more =>
      rw [stringBody.eq_def] at read
      dsimp only at read
      split at read
      · next quote =>
        obtain ⟨_, rfl⟩ := Prod.mk.inj (Option.some.inj read)
        rw [skipString.eq_def]
        simp [quote]
      · next quote =>
        split at read
        · next backslash =>
          obtain rfl : b = 0x5C := by simpa using backslash
          split at read
          · cases read
          · next e after =>
            split at read
            · next long =>
              obtain rfl : e = 0x75 := by simpa using long
              split at read
              · next c rest' escape =>
                rw [skipString_unicode escape]
                exact ih read
              · cases read
            · next short =>
              split at read
              · next x escape =>
                rw [skipString.eq_def]
                simp only [quote, beq_self_eq_true, short, escape, Option.isSome_some, Bool.false_eq_true,
                  if_false, if_true]
                exact ih read
              · cases read
        · next backslash =>
          split at read
          · cases read
          · next visible =>
            rw [skipString.eq_def]
            simp only [quote, backslash, visible, Bool.false_eq_true, if_false]
            exact ih read

theorem skipString_of_string? {input rest : Bytes} {s : String} (read : string? input = some (s, rest)) :
    skipString input = some rest := by
  unfold string? at read
  split at read
  · next content rest' body =>
    obtain ⟨_, _, same⟩ := Option.map_eq_some_iff.mp read
    obtain ⟨_, rfl⟩ := Prod.mk.inj same
    exact skipString_of_stringBody body
  · cases read

/-- A step of fuel for each step of the reader. -/
theorem skip_of_read (n : Nat) :
    (∀ depth input v rest, value? n depth input = some (v, rest) → skipValue? n input = some rest) ∧
    (∀ depth acc input xs rest, items? n depth acc input = some (xs, rest) →
      skipItems? n input = some rest) ∧
    (∀ depth acc input fs rest, fields? n depth acc input = some (fs, rest) →
      skipFields? n input = some rest) := by
  induction n with
  | zero =>
    refine ⟨?_, ?_, ?_⟩
    · intro depth input v rest read
      rw [value?] at read
      cases read
    · intro depth acc input xs rest read
      rw [items?] at read
      cases read
    · intro depth acc input fs rest read
      rw [fields?] at read
      cases read
  | succ n ih =>
    obtain ⟨values, items, fields⟩ := ih
    refine ⟨?_, ?_, ?_⟩
    · intro depth input v rest read
      rw [value?.eq_def] at read
      rw [skipValue?.eq_def]
      dsimp only at read ⊢
      grind [skipString_of_string?, Option.map_eq_some_iff]
    · intro depth acc input xs rest read
      rw [items?.eq_def] at read
      rw [skipItems?.eq_def]
      dsimp only at read ⊢
      grind
    · intro depth acc input fs rest read
      rw [fields?.eq_def] at read
      rw [skipFields?.eq_def]
      dsimp only at read ⊢
      cases start : skipSpace input with
      | nil =>
        rw [start] at read
        cases read
      | cons q after =>
        rw [start] at read
        dsimp only at read ⊢
        split at read
        · next quote =>
          rw [if_pos quote]
          cases name : string? after with
          | none =>
            rw [name] at read
            cases read
          | some named =>
            obtain ⟨key, behind⟩ := named
            rw [name] at read
            dsimp only at read
            rw [skipString_of_string? name]
            grind
        · cases read

/-! ### The members of an object that was written -/

theorem lexeme?_bytes {depth : Nat} {j : Json} (plain : Plain IsInt depth j) {rest : Bytes}
    (stops : Stops rest) : lexeme? (bytes j ++ rest) = some (bytes j, rest) := by
  obtain ⟨b, t, written, opens⟩ := chars_opens plain
  have start : skipSpace (bytes j ++ rest) = bytes j ++ rest := by
    rw [bytes_eq_encoded, written, List.cons_append, skipSpace_cons opens.noSpace]
  have read := readsBack_of_plain (fun _ kept => kept) plain (fuelFor (bytes j ++ rest)) rest
    (by rw [fuelFor, List.length_append, bytes_eq_encoded]; omega) stops
  rw [← bytes_eq_encoded] at read
  have behind : (bytes j ++ rest).length - rest.length = (bytes j).length := by
    rw [List.length_append]
    omega
  simp only [lexeme?, start, (skip_of_read _).1 _ _ _ _ read, Option.map_some, behind, List.take_left]

/-- A field as a member: its name, and its value's text. -/
def member (f : String × Json) : String × Bytes := (f.1, bytes f.2)

/-- One member, with what comes after its value. -/
theorem memberList_field {depth n : Nat} {acc : List (String × Bytes)} {f : String × Json}
    (plain : Plain IsInt depth f.2) {c : UInt8} {rest : Bytes} (stops : Stops (c :: rest))
    (noSpace : isSpace c = false) :
    memberList (n + 1) acc (encoded (fieldChars f) ++ c :: rest) =
      if c == 0x7D then some ((member f :: acc).reverse, rest)
      else if c == 0x2C then memberList n (member f :: acc) rest
      else none := by
  have value := lexeme?_bytes plain stops
  have name := string?_quoted f.1 (0x3A :: (bytes f.2 ++ c :: rest))
  rw [encoded_fieldChars, ← bytes_eq_encoded, List.cons_append, List.append_assoc, memberList]
  simp only [skipSpace_cons (by decide : isSpace 0x22 = false), beq_self_eq_true, if_true, List.cons_append,
    name, skipSpace_cons (by decide : isSpace 0x3A = false), value, skipSpace_cons noSpace]
  rfl

/-- Members behind others, up to the closing brace. -/
theorem memberList_fields {depth : Nat} (rest : Bytes) (fs : List (String × Json)) :
    ∀ (f : String × Json) (n : Nat) (acc : List (String × Bytes)),
      (∀ g ∈ f :: fs, Plain IsInt depth g.2) →
      (encoded (fieldChars f) ++ encoded (moreFields fs)).length ≤ n →
      memberList n acc (encoded (fieldChars f) ++ (encoded (moreFields fs) ++ rest)) =
        some (acc.reverse ++ (f :: fs).map member, rest) := by
  have written : ∀ f : String × Json, 0 < (encoded (fieldChars f)).length := by
    intro f
    rw [encoded_fieldChars]
    exact Nat.succ_pos _
  induction fs with
  | nil =>
    intro f n acc plain enough
    have named := written f
    rw [List.length_append] at enough
    obtain ⟨n, rfl⟩ : ∃ m, n = m + 1 := ⟨n - 1, by omega⟩
    rw [encoded_moreFields_nil, List.singleton_append,
      memberList_field (plain f (List.mem_cons_self ..)) (.cons (.inr (.inr rfl))) (by decide),
      List.reverse_cons]
    exact if_pos rfl
  | cons g gs ih =>
    intro f n acc plain enough
    have named := written f
    rw [encoded_moreFields_cons, List.length_append, List.length_cons] at enough
    obtain ⟨n, rfl⟩ : ∃ m, n = m + 1 := ⟨n - 1, by omega⟩
    have comma : ((0x2C : UInt8) == 0x7D) = false := by decide
    have more := ih g n (member f :: acc) (fun x later => plain x (List.mem_cons_of_mem _ later)) (by omega)
    rw [encoded_moreFields_cons, List.cons_append, List.append_assoc,
      memberList_field (plain f (List.mem_cons_self ..)) (.cons (.inl rfl)) (by decide)]
    simp only [comma, beq_self_eq_true, Bool.false_eq_true, if_false, if_true, more, List.reverse_cons,
      List.append_assoc, List.singleton_append, List.map_cons]

/-- Repeated names included: the order of the fields does not matter. -/
theorem members?_bytes {depth : Nat} {fields : List (String × Json)}
    (plain : ∀ f ∈ fields, Plain IsInt depth f.2) :
    members? (bytes (.obj fields)) = some (fields.map member) := by
  have brace : ∀ input, skipSpace (0x7B :: input) = 0x7B :: input := skipSpace_cons (by decide)
  cases fields with
  | nil => decide
  | cons f fs =>
    have written : bytes (.obj (f :: fs)) =
        0x7B :: (encoded (fieldChars f) ++ (encoded (moreFields fs) ++ [])) := by
      rw [bytes_eq_encoded, chars, List.cons_append, Text.encoded_ascii (by decide), Text.encoded_append,
        List.append_nil]
      rfl
    have read := memberList_fields [] fs f (fuelFor (bytes (.obj (f :: fs)))) [] plain
      (by rw [fuelFor, written, List.append_nil, List.length_cons]; omega)
    obtain ⟨t, start⟩ : ∃ t, encoded (fieldChars f) = 0x22 :: t := ⟨_, encoded_fieldChars f⟩
    have open_ : skipSpace (encoded (fieldChars f) ++ (encoded (moreFields fs) ++ [])) =
        0x22 :: (t ++ (encoded (moreFields fs) ++ [])) := by
      rw [start, List.cons_append, skipSpace_cons (by decide)]
    have notClosed : ((0x22 : UInt8) == 0x7D) = false := by decide
    have brace' : ((0x7B : UInt8) != 0x7B) = false := by decide
    rw [written] at read ⊢
    unfold members?
    simp only [brace, brace', open_, notClosed, Bool.false_eq_true, if_false, read]
    rfl

end Courier.Json
