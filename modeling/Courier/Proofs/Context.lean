import Courier.Context
import Courier.Proofs.Base64
import Courier.Proofs.Http.Headers
import Courier.Proofs.Struct
/-!
Claims and ids as header values.  Both forms in which claims travel bring plain values back: Base 64 of
JSON text here, and structs in `Struct.toJson_ofJson`.  The text in the header is visible and has no blanks,
whatever the claims are, so it is neither refused nor trimmed.
-/
namespace Courier

open Json (Plain)

theorem Whole.isInt {n : Int} (h : Whole n) : Json.IsInt n := by
  simp only [Whole, Value.wholeLimit] at h
  simp only [Json.IsInt, Json.lowestInt, Json.highestInt, Word.lowest64, Word.size64]
  omega

namespace Claims

theorem encode_chars (claims : Fields) :
    ∀ c ∈ (encode claims).toList, Text.isBlank c = false ∧ 0x20 ≤ c.toNat ∧ c.toNat < 0x7F := by
  have table : ∀ n : Fin 64, Text.isBlank (Base64.Alphabet.standard.symbol n) = false ∧
      0x20 ≤ (Base64.Alphabet.standard.symbol n).toNat ∧
      (Base64.Alphabet.standard.symbol n).toNat < 0x7F := by decide
  unfold encode Base64.encode
  rw [String.toList_ofList]
  exact Base64.encodeChars_all .standard (fun n small => table ⟨n, small⟩) (by decide) true _

theorem encode_visible (claims : Fields) :
    (Text.utf8 (encode claims)).all Http.isVisibleByte = true :=
  Http.all_visible_utf8 fun c member => (encode_chars claims c member).2

/-- As text, claims keep every integer. -/
theorem decode?_encode_integers {claims : Fields} (h : Plain Json.IsInt Json.nestingLimit (.obj claims)) :
    decode? (encode claims) = some claims := by
  have untrimmed : Text.trim (encode claims) = encode claims :=
    Text.trim_of_clear fun c member => (encode_chars claims c member).1
  have read : Json.parse? (Json.bytes (.obj claims)) = some (.obj claims) := Json.parse?_bytes h
  have decoded : Base64.decode? (encode claims) = some (Json.bytes (.obj claims)) :=
    Base64.decode?_encode _
  rw [decode?, untrimmed, decoded, Option.bind_some, read]

theorem decode?_encode {claims : Fields} (h : Plain Whole Json.nestingLimit (.obj claims)) :
    decode? (encode claims) = some claims :=
  decode?_encode_integers (h.mono fun _ whole => whole.isInt)

end Claims

namespace Context

theorem correlation_ne_empty (c : Context) : c.correlation ≠ "" := by
  unfold correlation
  split
  · decide
  · next some_id => simpa using some_id

theorem correlation_visible {c : Context} (h : (Text.utf8 c.correlationId).all Http.isVisibleByte = true) :
    (Text.utf8 c.correlation).all Http.isVisibleByte = true := by
  unfold correlation
  split
  · decide +kernel
  · exact h

end Context
end Courier
