import Courier.Reply
import Courier.Proofs.Json.Reading
import Courier.Proofs.Tunnel.Crossing
/-!
Bodies as JSON text.  Values whose numbers are integers of 64 bits, and which nest no deeper than the reader
goes, come back from the fields of a message and from the body of a response.  Fields may hold any text at
all: a text that is not JSON becomes a string, and from then on every field is what it is.
-/
namespace Courier

open Json (IsInt Plain nestingLimit parse? parseText? reach?)

/-! ### The body of a response -/

/-- A form feed is a blank in a body, but none in JSON. -/
theorem Json.parse?_formFeed (rest : Bytes) : parse? (0x0C :: rest) = none := by
  have opens : Json.OpensNumber 0x0C := by constructor <;> first | decide | (constructor <;> decide)
  have noNumber : Json.numeral? (0x0C :: rest) = none := by
    have noDigit : Json.isDigitByte 0x0C = false := by decide
    have noSign : ((0x0C : UInt8) == 0x2D) = false := by decide
    simp [Json.numeral?, Json.takeDigits, noDigit, noSign]
  rw [parse?, Json.parseStart?, Json.fuelFor, Json.value?_number _ _ opens, noNumber]
  rfl

namespace Reply

theorem decodeBody_bytes {j : Json} (plain : Plain IsInt nestingLimit j) : decodeBody j.bytes = j := by
  obtain ⟨b, rest, written, opens⟩ := Json.chars_opens plain
  rw [← Json.bytes_eq_encoded] at written
  have read := Json.parse?_bytes plain
  have someText : isBlankByte b = false := by
    cases blank : isBlankByte b with
    | false => rfl
    | true =>
      obtain rfl : b = 0x0C := by
        have noSpace := opens.noSpace
        simp only [isBlankByte, Json.isSpace, Bool.or_eq_true, Bool.or_eq_false_iff] at blank noSpace
        grind
      rw [written, Json.parse?_formFeed] at read
      cases read
  have notBlank : j.bytes.all isBlankByte = false := by
    rw [written, List.all_cons, someText, Bool.false_and]
  rw [decodeBody, notBlank, read]
  rfl

end Reply

/-! ### The fields of a message -/

namespace Tunnel

theorem get?_decodeFields (key : String) (fields : Table String) :
    Table.get? key (decodeFields fields) = (Table.get? key fields).map decodeField :=
  Table.get?_mapValues decodeField key fields

theorem decodeField_of_none {raw : String} (unread : parseText? raw = none) : decodeField raw = .str raw := by
  rw [decodeField, unread, Option.getD_none]

/-- A field is plain unless its text holds a number that is no integer of 64 bits. -/
theorem decodeField_plain {raw : String}
    (integral : ∀ v, parseText? raw = some v → ∀ place x, reach? place v ≠ some (.double x)) :
    Plain IsInt nestingLimit (decodeField raw) := by
  cases read : parseText? raw with
  | none =>
    rw [decodeField_of_none read]
    exact .str raw
  | some v =>
    rw [decodeField, read, Option.getD_some]
    exact (Json.parse?_legible read).plain (integral v read)

/-- What becomes of fields that came from a peer. -/
structure Taken (fields : Table String) : Prop where
  keys : Table.keys (decodeFields fields) = Table.keys fields
  read : ∀ key raw v, Table.get? key fields = some raw → parseText? raw = some v →
    Table.get? key (decodeFields fields) = some v
  raw : ∀ key raw, Table.get? key fields = some raw → parseText? raw = none →
    Table.get? key (decodeFields fields) = some (.str raw)
  settled : decodeFields (encodeFields (decodeFields fields)) = decodeFields fields

theorem taken {fields : Table String} (integral : ∀ e ∈ fields, ∀ v, parseText? e.2 = some v →
    ∀ place x, reach? place v ≠ some (.double x)) : Taken fields where
  keys := Table.keys_mapValues decodeField fields
  read := by
    intro key raw v present read
    rw [get?_decodeFields, present, Option.map_some, decodeField, read, Option.getD_some]
  raw := by
    intro key raw present unread
    rw [get?_decodeFields, present, Option.map_some, decodeField_of_none unread]
  settled := by
    apply decodeFields_encodeFields
    intro f member
    obtain ⟨e, sent, rfl⟩ := List.mem_map.mp member
    exact decodeField_plain (integral e sent)

/-- Fields come back from their texts, texts from any peer settle after one trip, and the body of a response
is the value that it is the text of. -/
theorem fields_return :
    (∀ payload : Fields, (∀ f ∈ payload, Plain IsInt nestingLimit f.2) →
      decodeFields (encodeFields payload) = payload) ∧
    (∀ fields : Table String, (∀ e ∈ fields, ∀ v, parseText? e.2 = some v →
      ∀ place x, reach? place v ≠ some (.double x)) → Taken fields) ∧
    ∀ j : Json, Plain IsInt nestingLimit j → Reply.decodeBody j.bytes = j :=
  ⟨fun _ plain => decodeFields_encodeFields plain, fun _ integral => taken integral,
    fun _ plain => Reply.decodeBody_bytes plain⟩

/-- Quotes, a backslash, controls and a character beyond the basic plane, and both ends of the integers. -/
def letterhead : Fields :=
  [("\"\\\n", .arr [.int (-9223372036854775808), .int 18446744073709551615]),
    ("😀", .obj [("\x00", .str "\x1F\"\\")])]

/-- Blanks and a repeated name, what is no JSON, and a pair of surrogates. -/
def posting : Table String :=
  [("list", " [1, \x7b\"b\": -2, \"b\": 3\x7d]\n"), ("note", "\x7boops"), ("sign", "\"\\ud83d\\ude00\"")]

theorem letterhead_returns : decodeFields (encodeFields letterhead) = letterhead ∧
    (Taken posting ∧ decodeFields posting =
      [("list", .arr [.int 1, .obj [("b", .int 3)]]), ("note", .str "\x7boops"), ("sign", .str "😀")]) ∧
    Reply.decodeBody (Json.obj letterhead).bytes = .obj letterhead := by
  have integer : ∀ {n : Int}, Json.lowestInt ≤ n ∧ n ≤ Json.highestInt → ∀ depth, Plain IsInt depth (.int n) :=
    fun kept _ => .int kept
  have plain : ∀ depth, ∀ f ∈ letterhead, Plain IsInt (depth + 1) f.2 := by
    intro depth f member
    simp only [letterhead, List.mem_cons, List.not_mem_nil, or_false] at member
    rcases member with rfl | rfl
    · refine .arr fun x member => ?_
      simp only [List.mem_cons, List.not_mem_nil, or_false] at member
      rcases member with rfl | rfl
      · exact integer (by decide) depth
      · exact integer (by decide) depth
    · refine .obj (List.pairwise_singleton _ _) fun f member => ?_
      obtain rfl := List.mem_singleton.mp member
      exact .str _
  have ordered : Table.Ordered letterhead := by
    unfold Table.Ordered
    decide +kernel
  have integral : ∀ e ∈ posting, ∀ v, parseText? e.2 = some v →
      ∀ place x, reach? place v ≠ some (.double x) := by
    intro e member v read
    simp only [posting, List.mem_cons, List.not_mem_nil, or_false] at member
    suffices plain : Plain IsInt 2 v from plain.integral
    rcases member with rfl | rfl | rfl
    · obtain rfl : .arr [.int 1, .obj [("b", .int 3)]] = v := Option.some.inj read
      refine .arr fun x member => ?_
      simp only [List.mem_cons, List.not_mem_nil, or_false] at member
      rcases member with rfl | rfl
      · exact integer (by decide) 1
      · refine .obj (List.pairwise_singleton _ _) fun f member => ?_
        obtain rfl := List.mem_singleton.mp member
        exact integer (by decide) 0
    · cases read
    · obtain rfl : .str "😀" = v := Option.some.inj read
      exact .str _
  exact ⟨fields_return.1 letterhead (plain 126), ⟨fields_return.2.1 posting integral, rfl⟩,
    fields_return.2.2 (.obj letterhead) (.obj ordered (plain 125))⟩

end Tunnel
end Courier
