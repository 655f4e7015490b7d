import Courier.Wire.Item
import Courier.Proofs.Text
import Courier.Proofs.Wire.Varint
/-!
Fields on the wire, read back.  `Written` says which fields some bytes are read as, whatever they stand
before and however deep they nest.  It holds of the bytes of one field and is put together as bytes are, so
what is written one after the other is read one after the other.
-/
namespace Courier.Wire

/-- A number that a key has room for. -/
structure IsTag (tag : Nat) : Prop where
  positive : 0 < tag
  bounded : tag * 8 + 8 ≤ Word.size32

/-- No longer than a length can say. -/
def Fits (b : Bytes) : Prop := b.length < Word.size64

namespace Fits

variable {a b : Bytes}

theorem left (h : Fits (a ++ b)) : Fits a := by
  unfold Fits at h ⊢
  rw [List.length_append] at h
  omega

theorem right (h : Fits (a ++ b)) : Fits b := by
  unfold Fits at h ⊢
  rw [List.length_append] at h
  omega

/-- What stands in a field is no longer than the field. -/
theorem content {tag : Nat} (h : Fits (bytesField tag b)) : Fits b := right h

theorem present {tag : Nat} (h : Fits (bytesOrNone tag b)) : Fits b := by
  unfold bytesOrNone at h
  split at h
  · next empty =>
    rw [List.isEmpty_iff.mp empty]
    exact h
  · exact h.content

theorem of_mem {α : Type} {f : α → Bytes} {l : List α} (h : Fits (l.flatMap f)) {x : α} (member : x ∈ l) :
    Fits (f x) := by
  induction l with
  | nil => cases member
  | cons y rest ih =>
    rw [List.flatMap_cons] at h
    rcases List.mem_cons.mp member with rfl | later
    · exact h.left
    · exact ih h.right later

end Fits

theorem IsTag.ofSmall {tag : Nat} (small : 0 < tag ∧ tag ≤ 8) : IsTag tag := by
  refine ⟨small.1, ?_⟩
  unfold Word.size32
  omega

theorem WireType.number_lt (wire : WireType) : wire.number < 8 := by
  cases wire <;> decide

theorem WireType.ofNumber?_number (wire : WireType) : ofNumber? wire.number = some wire := by
  cases wire <;> rfl

theorem readKey?_key {tag : Nat} (valid : IsTag tag) (wire : WireType) (rest : Bytes) :
    readKey? (key tag wire ++ rest) = some (tag, wire, rest) := by
  obtain ⟨positive, bounded⟩ := valid
  have small := wire.number_lt
  have fits : tag * 8 + wire.number < Word.size64 := by
    unfold Word.size32 at bounded
    unfold Word.size64
    omega
  have inRange :
      (decide (tag * 8 + wire.number < Word.size32) && decide (8 ≤ tag * 8 + wire.number)) = true := by
    rw [Bool.and_eq_true, decide_eq_true_eq, decide_eq_true_eq]
    omega
  have low : (tag * 8 + wire.number) % 8 = wire.number := by omega
  have high : (tag * 8 + wire.number) / 8 = tag := by omega
  unfold readKey? key
  rw [readVarint?_varint fits]
  dsimp only
  rw [if_pos inRange, low, high, WireType.ofNumber?_number, Option.map_some]

theorem takeBytes?_append {count : Nat} {front : Bytes} (whole : front.length = count) (rest : Bytes) :
    takeBytes? count (front ++ rest) = some (front, rest) := by
  subst whole
  unfold takeBytes?
  rw [List.take_left, List.drop_left]
  simp

theorem readBytes?_delimited {content : Bytes} (fits : Fits content) (rest : Bytes) :
    readBytes? (varint content.length ++ (content ++ rest)) = some (content, rest) := by
  unfold readBytes?
  rw [readVarint?_varint fits]
  exact takeBytes?_append rfl rest

/-! ### Bytes and the fields that they are read as -/

/-- These bytes are read as these fields. -/
inductive Written (maps : List Nat) : Bytes → List Item → Prop where
  | nil : Written maps [] []
  | cons {front rest : Bytes} {item : Item} {items : List Item} (some_front : front ≠ [])
      (reads : ∀ budget after, readItem? maps budget (front ++ after) = some (item, after))
      (later : Written maps rest items) : Written maps (front ++ rest) (item :: items)

namespace Written

variable {maps : List Nat}

theorem one {front : Bytes} {item : Item} (some_front : front ≠ [])
    (reads : ∀ budget after, readItem? maps budget (front ++ after) = some (item, after)) :
    Written maps front [item] := by
  have whole := cons some_front reads nil
  rwa [List.append_nil] at whole

theorem append {a b : Bytes} {items more : List Item} (first : Written maps a items)
    (second : Written maps b more) : Written maps (a ++ b) (items ++ more) := by
  induction first with
  | nil => exact second
  | cons some_front reads _ ih =>
    rw [List.append_assoc, List.cons_append]
    exact cons some_front reads ih

theorem map {α : Type} {f : α → Bytes} {g : α → Item} {l : List α}
    (each : ∀ a ∈ l, Written maps (f a) [g a]) : Written maps (l.flatMap f) (l.map g) := by
  induction l with
  | nil => exact nil
  | cons a rest ih =>
    rw [List.flatMap_cons, List.map_cons]
    exact (each a (List.mem_cons_self ..)).append (ih fun b member => each b (List.mem_cons_of_mem _ member))

theorem readItems? {b : Bytes} {items : List Item} (h : Written maps b items) (budget : Nat) {fuel : Nat}
    (enough : b.length ≤ fuel) : readItems? maps budget fuel b = some items := by
  induction h generalizing fuel with
  | nil => cases fuel <;> rfl
  | @cons front rest item items some_front reads _ ih =>
    obtain ⟨x, xs, rfl⟩ := List.exists_cons_of_ne_nil some_front
    rw [List.length_append, List.length_cons] at enough
    obtain ⟨fuel, rfl⟩ : ∃ n, fuel = n + 1 := ⟨fuel - 1, by omega⟩
    have first := reads budget rest
    rw [List.cons_append] at first ⊢
    rw [Wire.readItems?, first]
    dsimp only
    rw [ih (by omega), Option.map_some]

theorem items? {b : Bytes} {items : List Item} (h : Written maps b items) (budget : Nat) :
    items? maps budget b = some items :=
  h.readItems? budget (Nat.le_refl _)

end Written

/-! ### One field -/

theorem key_append_ne_nil (tag : Nat) (wire : WireType) (b : Bytes) : key tag wire ++ b ≠ [] := by
  intro nothing
  exact varintGroups_ne_nil _ _ (List.append_eq_nil_iff.mp nothing).1

/-- The field that is there unless its content is empty. -/
def presentItem (tag : Nat) (content : Bytes) : List Item :=
  if content.isEmpty then [] else [⟨tag, .bytes content⟩]

section

variable {maps : List Nat} {tag : Nat} (valid : IsTag tag)
include valid

theorem written_bytesField {content : Bytes} (fits : Fits content)
    (single : maps.contains tag = false) :
    Written maps (bytesField tag content) [⟨tag, .bytes content⟩] := by
  unfold bytesField
  rw [List.append_assoc]
  refine .one (key_append_ne_nil _ _ _) fun budget after => ?_
  unfold readItem?
  rw [List.append_assoc, readKey?_key valid]
  dsimp only
  rw [single, List.append_assoc, readBytes?_delimited fits]
  rfl

/-- Fields of a map are read as entries. -/
theorem written_entry {content : Bytes} (fits : Fits content)
    (map : maps.contains tag = true) : Written maps (bytesField tag content) [⟨tag, .entry content⟩] := by
  unfold bytesField
  rw [List.append_assoc]
  refine .one (key_append_ne_nil _ _ _) fun budget after => ?_
  unfold readItem?
  rw [List.append_assoc, readKey?_key valid]
  dsimp only
  rw [map, List.append_assoc, readBytes?_delimited fits]
  rfl

theorem written_varint {n : Nat} (fits : n < Word.size64) (single : maps.contains tag = false) :
    Written maps (key tag .varint ++ varint n) [⟨tag, .varint n⟩] := by
  refine .one (key_append_ne_nil _ _ _) fun budget after => ?_
  unfold readItem?
  rw [List.append_assoc, readKey?_key valid]
  dsimp only
  rw [single, readVarint?_varint fits]
  rfl

theorem written_fixed64 {n : Nat} (fits : n < Word.size64) (single : maps.contains tag = false) :
    Written maps (key tag .fixed64 ++ littleEndian 8 n) [⟨tag, .fixed64 n⟩] := by
  have place : n < 256 ^ 8 := by
    unfold Word.size64 at fits
    omega
  refine .one (key_append_ne_nil _ _ _) fun budget after => ?_
  unfold readItem?
  rw [List.append_assoc, readKey?_key valid]
  dsimp only
  rw [single, takeBytes?_append (littleEndian_length 8 n)]
  simp only [Bool.false_eq_true, if_false, Option.map_some, ofLittleEndian_littleEndian place]

theorem written_bytesOrNone {content : Bytes} (fits : Fits content)
    (single : maps.contains tag = false) :
    Written maps (bytesOrNone tag content) (presentItem tag content) := by
  unfold bytesOrNone presentItem
  split
  · exact .nil
  · exact written_bytesField valid fits single

end

/-! ### Fields taken in turn -/

section

variable {α β : Type} {p q : Prop} [Decidable p] [Decidable q] {step : β → α → Option β}

theorem map_guarded (f : α → β) (a : α) :
    (if p then some a else none).map f = if p then some (f a) else none := by
  split <;> rfl

theorem foldlM_one (b : β) (a : α) : [a].foldlM step b = step b a := by
  rw [List.foldlM_cons]
  cases step b a <;> rfl

/-- Some fields under a condition, and those after them under another. -/
theorem foldlM_append_guarded {front back : List α} {b b' b'' : β}
    (first : front.foldlM step b = if p then some b' else none)
    (later : back.foldlM step b' = if q then some b'' else none) :
    (front ++ back).foldlM step b = if p ∧ q then some b'' else none := by
  rw [List.foldlM_append, first]
  by_cases holds : p
  · rw [if_pos holds, Option.bind_eq_bind, Option.bind_some, later]
    simp only [holds, true_and]
  · rw [if_neg holds, if_neg fun both => holds both.1]
    rfl

theorem foldlM_append_last {front back : List α} {b b' b'' : β}
    (first : front.foldlM step b = if p then some b' else none) (later : back.foldlM step b' = some b'') :
    (front ++ back).foldlM step b = if p then some b'' else none := by
  rw [foldlM_append_guarded first (later.trans (if_pos trivial).symm)]
  simp only [and_true]

theorem foldlM_cons_guarded {a : α} {rest : List α} {b b' b'' : β}
    (first : step b a = if p then some b' else none)
    (later : rest.foldlM step b' = if q then some b'' else none) :
    (a :: rest).foldlM step b = if p ∧ q then some b'' else none :=
  foldlM_append_guarded ((foldlM_one b a).trans first) later

/-- Fields that come to something without a condition. -/
theorem foldlM_append_of {front back : List α} {b b' : β} (first : front.foldlM step b = some b') :
    (front ++ back).foldlM step b = back.foldlM step b' := by
  rw [List.foldlM_append, first]
  rfl

end

section

variable {β : Type} {step : β → Item → Option β} {tag : Nat}

/-- A field that may be left out, where the default stands already. -/
theorem foldlM_presentItem {content : Bytes} {b b' : β} (default : content = [] → b = b')
    (read : step b ⟨tag, .bytes content⟩ = some b') : (presentItem tag content).foldlM step b = some b' := by
  unfold presentItem
  split
  · next empty =>
    rw [default (List.isEmpty_iff.mp empty)]
    rfl
  · rw [foldlM_one, read]

theorem foldlM_bytes (put : Bytes → β) (reads : ∀ b, step (put []) ⟨tag, .bytes b⟩ = some (put b))
    (content : Bytes) : (presentItem tag content).foldlM step (put []) = some (put content) :=
  foldlM_presentItem (fun empty => by rw [empty]) (reads content)

theorem foldlM_text (put : String → β)
    (reads : ∀ s, step (put "") ⟨tag, .bytes (Text.utf8 s)⟩ = some (put s)) (s : String) :
    (presentItem tag (Text.utf8 s)).foldlM step (put "") = some (put s) := by
  refine foldlM_presentItem (fun empty => ?_) (reads s)
  have same : "" = s := Text.utf8_inj empty.symm
  rw [same]

end

end Courier.Wire
