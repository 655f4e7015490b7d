import Courier.Proofs.Forwarding
/-!
Queries behind a path.  What is written there is text that an address may hold as it is, so the question mark
in front of it stays the only one and no fragment begins; and whoever cuts the address there reads the same
pairs.
-/
namespace Courier.Form

/-- Letters, digits and the signs of a query, none of which has to be escaped in an address. -/
def isSafeChar (c : Char) : Bool :=
  Text.isLetter c || Text.isDigit c || ['-', '.', '_', '*', '+', '&', '='].contains c

/-- Safe characters, and any others escaped: a percent sign with two hexadecimal digits. -/
inductive SafeText : List Char → Prop where
  | nil : SafeText []
  | char {c : Char} {rest : List Char} (safe : isSafeChar c = true) (more : SafeText rest) :
      SafeText (c :: rest)
  | escape {a b : Char} {rest : List Char} (high : (Text.hexValue? a).isSome = true)
      (low : (Text.hexValue? b).isSome = true) (more : SafeText rest) : SafeText ('%' :: a :: b :: rest)

theorem SafeText.append {front back : List Char} (h : SafeText front) (h' : SafeText back) :
    SafeText (front ++ back) := by
  induction h with
  | nil => exact h'
  | char safe more ih => exact .char safe ih
  | escape high low more ih => exact .escape high low ih

theorem SafeText.clear {text : List Char} (h : SafeText text) : ∀ c ∈ text, c ≠ '?' ∧ c ≠ '#' := by
  have safe_clear : ∀ {c : Char}, isSafeChar c = true → c ≠ '?' ∧ c ≠ '#' := by
    rintro c safe
    constructor <;>
      · rintro rfl
        exact absurd safe (by decide)
  have digit_clear : ∀ {c : Char}, (Text.hexValue? c).isSome = true → c ≠ '?' ∧ c ≠ '#' := by
    rintro c digit
    constructor <;>
      · rintro rfl
        exact absurd digit (by decide)
  induction h with
  | nil => exact nofun
  | char safe more ih => exact List.forall_mem_cons.mpr ⟨safe_clear safe, ih⟩
  | escape high low more ih =>
    simp only [List.forall_mem_cons]
    exact ⟨by decide, digit_clear high, digit_clear low, ih⟩

theorem encodeByte_safe (b : UInt8) : SafeText (encodeByte b) := by
  have digit : ∀ n : Fin 16, (Text.hexValue? (Text.upperHexDigit n.val)).isSome = true := by decide
  have plain : ∀ b : UInt8, isPlain b = true → isSafeChar (Char.ofNat b.toNat) = true :=
    Text.forall_byte (by decide +kernel)
  have small := b.toNat_lt
  unfold encodeByte
  split
  · next itself => exact .char (plain b itself) .nil
  · split
    · exact .char (by decide) .nil
    · exact .escape (digit ⟨b.toNat / 16, by omega⟩) (digit ⟨b.toNat % 16, by omega⟩) .nil

theorem queryChars_safe (pairs : Pairs) : SafeText (queryChars pairs) :=
  queryChars_of .nil .append encodeByte_safe (.char (by decide) .nil) (.char (by decide) .nil) pairs

/-- An address with a path and a query: one question mark, no fragment, and safe text that is read as these
pairs. -/
structure Carries (path : String) (pairs : Pairs) (address : String) : Prop where
  written : ∃ text, address = path ++ "?" ++ text ∧ SafeText text.toList ∧ decode (Text.utf8 text) = pairs
  single : address.toList.count '?' = 1
  whole : '#' ∉ address.toList

theorem withQuery_carries {path : String} (plain : ∀ c ∈ path.toList, c ≠ '?' ∧ c ≠ '#') {pairs : Pairs}
    (some_pair : pairs ≠ []) : Carries path pairs (withQuery path pairs) := by
  have address : withQuery path pairs = path ++ "?" ++ encode pairs := by
    cases pairs with
    | nil => exact absurd rfl some_pair
    | cons p rest => rfl
  have safe : SafeText (encode pairs).toList := by
    rw [encode, String.toList_ofList]
    exact queryChars_safe pairs
  have chars : (withQuery path pairs).toList = path.toList ++ '?' :: (encode pairs).toList := by
    rw [address, String.toList_append, String.toList_append, List.append_assoc]
    rfl
  refine ⟨⟨_, address, safe, decode_encode pairs⟩, ?_, ?_⟩
  · have before : path.toList.count '?' = 0 := List.count_eq_zero.mpr fun member => (plain _ member).1 rfl
    have behind : (encode pairs).toList.count '?' = 0 :=
      List.count_eq_zero.mpr fun member => (safe.clear _ member).1 rfl
    rw [chars, List.count_append, List.count_cons_self, before, behind]
  · rw [chars, List.mem_append, List.mem_cons]
    rintro (before | mark | behind)
    · exact (plain _ before).2 rfl
    · cases mark
    · exact (safe.clear _ behind).2 rfl

/-- Pairs survive behind every path: without pairs there is the path alone, and with pairs an address that
carries them.  So what the relay was asked with can be written anew and read as the same pairs. -/
theorem pairs_survive {path : String} (plain : ∀ c ∈ path.toList, c ≠ '?' ∧ c ≠ '#') (pairs : Pairs) :
    (pairs = [] → withQuery path pairs = path) ∧
      (pairs ≠ [] → Carries path pairs (withQuery path pairs)) ∧
      ∀ (r : Inbound) (rest : String),
        (Relay.handedOn r rest).query = decode (Text.utf8 (r.uri.query.getD "")) ∧
          decode (Text.utf8 (encode (Relay.handedOn r rest).query)) = (Relay.handedOn r rest).query :=
  ⟨fun none_given => none_given ▸ rfl, withQuery_carries plain,
    fun r rest => ⟨(Relay.handedOn_address r rest).2, decode_encode _⟩⟩

/-- A key that separates, a value that does, and a pair of nothing. -/
theorem separators_survive :
    (∀ c ∈ "/api/v1/search".toList, c ≠ '?' ∧ c ≠ '#') ∧
      Carries "/api/v1/search" [("a&b=", "+ %3D"), ("", ""), ("\u00E4?", "#")]
        "/api/v1/search?a%26b%3D=%2B+%253D&=&%C3%A4%3F=%23" := by
  have plain : ∀ c ∈ "/api/v1/search".toList, c ≠ '?' ∧ c ≠ '#' := by simp
  have written : withQuery "/api/v1/search" [("a&b=", "+ %3D"), ("", ""), ("\u00E4?", "#")] =
      "/api/v1/search?a%26b%3D=%2B+%253D&=&%C3%A4%3F=%23" := by decide +kernel
  rw [← written]
  exact ⟨plain, (pairs_survive plain _).2.1 nofun⟩

end Courier.Form
