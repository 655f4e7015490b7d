import Courier.Form
import Courier.Proofs.Text.Lossy
/-!
Pairs of a query there and back.  Each byte of a key or value is written in characters that stand for
themselves, a plus sign or a percent sign with two digits, so no ampersand and no equals sign is left to
be taken for one that separates.
-/
namespace Courier.Form

open Text (encoded)

/-! ### Bytes of a key or a value -/

/-- Plus signs stand for blanks. -/
def unplus (b : UInt8) : UInt8 := if b == 0x2B then 0x20 else b

/-- No byte that separates. -/
def isInner (b : UInt8) : Bool := b != 0x26 && b != 0x3D

/-- How each byte is written. -/
theorem encodeByte_spec (b : UInt8) : (encoded (encodeByte b)).all isInner = true ∧
    (isPlain b = true → (encoded (encodeByte b)).map unplus = [b] ∧ b ≠ 0x25) :=
  Text.forall_byte
    (P := fun b => (encoded (encodeByte b)).all isInner = true ∧
      (isPlain b = true → (encoded (encodeByte b)).map unplus = [b] ∧ b ≠ 0x25))
    (by decide +kernel) b

theorem encodeByte_inner (b : UInt8) : (encoded (encodeByte b)).all isInner = true := (encodeByte_spec b).1

/-- A plain byte is written as itself, and is neither a plus nor a percent sign. -/
theorem encoded_plain {b : UInt8} (plain : isPlain b = true) :
    (encoded (encodeByte b)).map unplus = [b] ∧ b ≠ 0x25 := (encodeByte_spec b).2 plain

/-- Another byte is a plus sign, or two digits behind a percent sign. -/
theorem encoded_percent (b : UInt8) : ∃ x y : UInt8, (encoded (percentByte b)).map unplus = [0x25, x, y] ∧
    Text.hexValue? (Char.ofNat x.toNat) = some (b.toNat / 16) ∧
    Text.hexValue? (Char.ofNat y.toNat) = some (b.toNat % 16) := by
  have digits : ∀ n : Fin 16, (encoded [Text.upperHexDigit n.val]).map unplus =
      [UInt8.ofNat (Text.upperHexDigit n.val).toNat] ∧
      Text.hexValue? (Char.ofNat (UInt8.ofNat (Text.upperHexDigit n.val).toNat).toNat) = some n.val := by
    decide
  have small := b.toNat_lt
  obtain ⟨high, high_value⟩ := digits ⟨b.toNat / 16, by omega⟩
  obtain ⟨low, low_value⟩ := digits ⟨b.toNat % 16, by omega⟩
  refine ⟨_, _, ?_, high_value, low_value⟩
  have apart : percentByte b =
      ['%'] ++ [Text.upperHexDigit (b.toNat / 16)] ++ [Text.upperHexDigit (b.toNat % 16)] := rfl
  rw [apart, Text.encoded_append, Text.encoded_append, List.map_append, List.map_append, high, low]
  rfl

theorem percentDecode_cons {b : UInt8} (h : b ≠ 0x25) (rest : Bytes) :
    percentDecode (b :: rest) = b :: percentDecode rest := by
  rw [percentDecode]
  rintro _ _ _ rfl
  exact absurd rfl h

/-- Decoding makes no text longer. -/
theorem percentDecode_length (b : Bytes) : (percentDecode b).length ≤ b.length := by
  induction b using percentDecode.induct with
  | case1 a b rest x y high low ih =>
    simp only [percentDecode, high, low, List.length_cons]
    omega
  | case2 a b rest noDigits ih =>
    rw [percentDecode]
    split
    · next x y high low => exact (noDigits x y high low).elim
    · simp only [List.length_cons] at ih ⊢
      omega
  | case3 x rest other ih =>
    rw [percentDecode.eq_2 _ _ other, List.length_cons, List.length_cons]
    omega
  | case4 => exact Nat.le_refl 0

/-- Each byte is read back. -/
theorem percentDecode_encodeByte (b : UInt8) (rest : Bytes) :
    percentDecode ((encoded (encodeByte b)).map unplus ++ rest) = b :: percentDecode rest := by
  cases plain : isPlain b with
  | true =>
    obtain ⟨itself, other⟩ := encoded_plain plain
    rw [itself, List.singleton_append, percentDecode_cons other]
  | false =>
    by_cases blank : b = 0x20
    · subst blank
      exact percentDecode_cons (by decide) rest
    · obtain ⟨x, y, written, high, low⟩ := encoded_percent b
      have percent : encodeByte b = percentByte b := by simp [encodeByte, plain, blank]
      have whole : b.toNat / 16 * 16 + b.toNat % 16 = b.toNat := by omega
      rw [percent, written, List.cons_append, List.cons_append, List.singleton_append, percentDecode, high, low]
      dsimp only
      rw [whole, UInt8.ofNat_toNat]

/-! ### Keys and values -/

theorem encoded_flatMap (f : UInt8 → List Char) (bs : Bytes) :
    encoded (bs.flatMap f) = bs.flatMap fun b => encoded (f b) := by
  rw [encoded, List.flatMap_assoc]
  rfl

theorem decodeText_encodeChars (s : String) : decodeText (encoded (encodeChars s)) = s := by
  have back : ∀ bs : Bytes,
      percentDecode ((bs.flatMap fun b => encoded (encodeByte b)).map unplus) = bs := by
    intro bs
    induction bs with
    | nil => rfl
    | cons b rest ih => rw [List.flatMap_cons, List.map_append, percentDecode_encodeByte, ih]
  rw [encodeChars, encoded_flatMap]
  change Text.lossy (percentDecode ((_ : Bytes).map unplus)) = s
  rw [back, Text.lossy_utf8]

theorem encodeChars_inner (s : String) : ∀ b ∈ encoded (encodeChars s), b ≠ 0x26 ∧ b ≠ 0x3D := by
  intro b member
  rw [encodeChars, encoded_flatMap, List.mem_flatMap] at member
  obtain ⟨x, _, member⟩ := member
  have inner := List.all_eq_true.mp (encodeByte_inner x) b member
  simpa [isInner] using inner

/-! ### Pairs -/

/-- What holds of every byte's text and of both separators, and of texts one after the other, holds of a
query. -/
theorem queryChars_of {P : List Char → Prop} (empty : P []) (join : ∀ {a b}, P a → P b → P (a ++ b))
    (byte : ∀ b, P (encodeByte b)) (equals : P ['=']) (ampersand : P ['&']) (pairs : Pairs) :
    P (queryChars pairs) := by
  have text : ∀ s : String, P (encodeChars s) := by
    intro s
    unfold encodeChars
    induction Text.utf8 s with
    | nil => exact empty
    | cons b rest ih => exact join (byte b) ih
  have pair : ∀ p : String × String, P (pairChars p) := fun p => join (text p.1) (join equals (text p.2))
  induction pairs with
  | nil => exact empty
  | cons p rest ih =>
    cases rest with
    | nil => exact pair p
    | cons q rest => exact join (pair p) (join ampersand ih)

theorem encoded_pairChars (p : String × String) :
    encoded (pairChars p) = encoded (encodeChars p.1) ++ 0x3D :: encoded (encodeChars p.2) := by
  rw [pairChars, Text.encoded_append, Text.encoded_ascii (by decide)]
  rfl

theorem cutAt_pair (p : String × String) :
    cutAt 0x3D (encoded (pairChars p)) = (encoded (encodeChars p.1), encoded (encodeChars p.2)) := by
  have key : ∀ b ∈ encoded (encodeChars p.1), (b != 0x3D) = true := by
    intro b member
    simpa using (encodeChars_inner p.1 b member).2
  rw [cutAt, encoded_pairChars, List.takeWhile_append_of_pos key, List.dropWhile_append_of_pos key]
  simp

theorem pairChars_inner (p : String × String) : ∀ b ∈ encoded (pairChars p), b ≠ 0x26 := by
  intro b member
  rw [encoded_pairChars, List.mem_append, List.mem_cons] at member
  rcases member with key | rfl | value
  · exact (encodeChars_inner p.1 b key).1
  · decide
  · exact (encodeChars_inner p.2 b value).1

theorem splitBytes_of_clear {sep : UInt8} {piece : Bytes} (clear : ∀ b ∈ piece, b ≠ sep) :
    splitBytes sep piece = [piece] := by
  induction piece with
  | nil => rfl
  | cons b rest ih =>
    rw [splitBytes, ih fun x member => clear x (List.mem_cons_of_mem _ member)]
    simp [clear b (List.mem_cons_self ..)]

theorem splitBytes_append {sep : UInt8} {piece : Bytes} (clear : ∀ b ∈ piece, b ≠ sep) (rest : Bytes) :
    splitBytes sep (piece ++ sep :: rest) = piece :: splitBytes sep rest := by
  induction piece with
  | nil => simp [splitBytes]
  | cons b more ih =>
    rw [List.cons_append, splitBytes, ih fun x member => clear x (List.mem_cons_of_mem _ member)]
    simp [clear b (List.mem_cons_self ..)]

theorem splitBytes_queryChars (p : String × String) (rest : Pairs) :
    splitBytes 0x26 (encoded (queryChars (p :: rest))) = (p :: rest).map fun q => encoded (pairChars q) := by
  induction rest generalizing p with
  | nil => exact splitBytes_of_clear (pairChars_inner p)
  | cons q rest ih =>
    rw [queryChars, Text.encoded_append, Text.encoded_ascii (by decide)]
    change splitBytes 0x26 (encoded (pairChars p) ++ 0x26 :: encoded (queryChars (q :: rest))) = _
    rw [splitBytes_append (pairChars_inner p), ih q]
    rfl

/-- A query is read back as the pairs that were written, in their order. -/
theorem decode_encode (pairs : Pairs) : decode (Text.utf8 (encode pairs)) = pairs := by
  cases pairs with
  | nil => rfl
  | cons p rest =>
    have some_bytes : ∀ piece ∈ (p :: rest).map (fun q => encoded (pairChars q)),
        (!piece.isEmpty) = true := by
      intro piece member
      obtain ⟨q, _, rfl⟩ := List.mem_map.mp member
      rw [encoded_pairChars]
      simp
    rw [encode, Text.utf8_ofList, decode, splitBytes_queryChars, List.filter_eq_self.mpr some_bytes,
      List.map_map]
    refine List.map_id'' ?_ _
    intro q
    simp only [Function.comp_apply, cutAt_pair, decodeText_encodeChars]

end Courier.Form
