import Courier.Proofs.Table
import Courier.Proofs.Text.Lossy
/-!
Texts and their bytes.  A text stands in another exactly if its bytes stand in the other's, since no
character begins with a byte that goes on with another one; and texts have the order of their bytes, so a
table has its keys in that order.
-/
namespace Courier

namespace Text

/-! ### Occurrence -/

/-- Every byte of a character but the first goes on with it. -/
theorem utf8EncodeChar_shape (c : Char) : ∃ lead tail, String.utf8EncodeChar c = lead :: tail ∧
    isContinuation lead = false ∧ ∀ b ∈ tail, isContinuation b = true := by
  have lead : ∀ n, n < 0x80 ∨ 0xC0 ≤ n ∧ n < 256 → isContinuation (UInt8.ofNat n) = false := by
    intro n range
    have byte : (UInt8.ofNat n).toNat = n := UInt8.toNat_ofNat_of_lt' (show n < 256 by omega)
    simp only [isContinuation, UInt8.le_iff_toNat_le, byte, Bool.and_eq_false_iff, decide_eq_false_iff_not]
    change ¬ 0x80 ≤ n ∨ ¬ n ≤ 0xBF
    omega
  have continues : ∀ ns : List Nat, ∀ b ∈ ns.map fun n => UInt8.ofNat (n % 64 + 128),
      isContinuation b = true := by
    intro ns b member
    obtain ⟨n, _, rfl⟩ := List.mem_map.mp member
    exact isContinuation_byte (by omega) (by omega)
  unfold String.utf8EncodeChar
  generalize c.val.toNat = v
  dsimp only
  split
  · exact ⟨_, _, rfl, lead v (by omega), continues []⟩
  split
  · exact ⟨_, _, rfl, lead _ (by omega), continues [v]⟩
  split
  · exact ⟨_, _, rfl, lead _ (by omega), continues [v / 64, v]⟩
  · exact ⟨_, _, rfl, lead _ (by omega), continues [v / 4096, v / 64, v]⟩

theorem prefix_of_encoded {needle hay : List Char} (h : encoded needle <+: encoded hay) : needle <+: hay := by
  induction needle generalizing hay with
  | nil => exact List.nil_prefix
  | cons c needle ih =>
    obtain ⟨behind, same⟩ := h
    obtain ⟨lead, tail, written, step⟩ := decodeStep_encoded c (encoded needle ++ behind)
    rw [encoded_cons, written, List.cons_append, List.cons_append, List.append_assoc] at same
    cases hay with
    | nil => cases same
    | cons d hay =>
      obtain ⟨lead', tail', written', step'⟩ := decodeStep_encoded d (encoded hay)
      rw [encoded_cons, written', List.cons_append] at same
      obtain ⟨rfl, rest⟩ := List.cons.inj same
      rw [rest, step'] at step
      obtain ⟨char, left⟩ := Prod.mk.inj step
      obtain rfl := Option.some.inj char
      exact List.cons_prefix_cons.mpr ⟨rfl, ih ⟨behind, left.symm⟩⟩

/-- A text does not begin inside a character. -/
theorem infix_of_continued {needle : List Char} {tail hay : Bytes}
    (continues : ∀ b ∈ tail, isContinuation b = true) (h : encoded needle <:+: tail ++ hay) :
    encoded needle <:+: hay := by
  induction tail with
  | nil => exact h
  | cons b tail ih =>
    have later := ih fun x member => continues x (List.mem_cons_of_mem _ member)
    rcases List.infix_cons_iff.mp h with starts | inside
    · cases needle with
      | nil => exact List.nil_infix
      | cons c needle =>
        obtain ⟨lead, more, written, opens, _⟩ := utf8EncodeChar_shape c
        rw [encoded_cons, written, List.cons_append] at starts
        obtain ⟨rfl, _⟩ := List.cons_prefix_cons.mp starts
        rw [continues lead (List.mem_cons_self ..)] at opens
        cases opens
    · exact later inside

theorem infix_of_encoded {needle hay : List Char} (h : encoded needle <:+: encoded hay) : needle <:+: hay := by
  induction hay with
  | nil =>
    have starts : encoded needle <+: encoded [] := by
      rw [List.eq_nil_of_infix_nil h]
      exact List.nil_prefix
    exact (prefix_of_encoded starts).isInfix
  | cons c hay ih =>
    obtain ⟨lead, tail, written, _, continues⟩ := utf8EncodeChar_shape c
    rw [encoded_cons, written, List.cons_append] at h
    rcases List.infix_cons_iff.mp h with starts | inside
    · rw [← List.cons_append, ← written, ← encoded_cons] at starts
      exact (prefix_of_encoded starts).isInfix
    · exact (ih (infix_of_continued continues inside)).trans (List.suffix_cons c hay).isInfix

/-- A byte of ASCII stands for its own character only. -/
theorem mem_encoded_iff {c : Char} (ascii : c.toNat < 128) {cs : List Char} :
    UInt8.ofNat c.toNat ∈ encoded cs ↔ c ∈ cs := by
  constructor
  · intro member
    obtain ⟨front, back, same⟩ := List.append_of_mem member
    have inside : encoded [c] <:+: encoded cs := by
      refine ⟨front, back, ?_⟩
      rw [encoded_ascii ascii, encoded_nil, List.append_assoc, List.singleton_append, same]
    exact (infix_of_encoded inside).subset (List.mem_singleton_self c)
  · intro member
    refine List.mem_flatMap.mpr ⟨c, member, ?_⟩
    rw [utf8EncodeChar_ascii ascii]
    exact List.mem_singleton_self _

theorem contains_iff_utf8 (s needle : String) : contains s needle = true ↔ utf8 needle <:+: utf8 s := by
  rw [contains_iff, utf8_eq, utf8_eq]
  refine ⟨?_, infix_of_encoded⟩
  rintro ⟨front, back, same⟩
  refine ⟨encoded front, encoded back, ?_⟩
  rw [← encoded_append, ← encoded_append, same]

/-! ### Order -/

theorem cons_ofNat_lt {n k : Nat} (small : n < 256) (small' : k < 256) (front back : Bytes) :
    UInt8.ofNat n :: front < UInt8.ofNat k :: back ↔ n < k ∨ n = k ∧ front < back := by
  rw [List.cons_lt_cons_iff, UInt8.lt_iff_toNat_lt, ← UInt8.toNat_inj, UInt8.toNat_ofNat_of_lt' small,
    UInt8.toNat_ofNat_of_lt' small']

/-- Of two numbers the smaller one has the smaller digits to the base of 64. -/
theorem digits_lt {v w : Nat} (less : v < w) : v / 262144 < w / 262144 ∨ v / 262144 = w / 262144 ∧
    (v / 4096 % 64 < w / 4096 % 64 ∨ v / 4096 % 64 = w / 4096 % 64 ∧
      (v / 64 % 64 < w / 64 % 64 ∨ v / 64 % 64 = w / 64 % 64 ∧ v % 64 < w % 64)) := by
  have last : ∀ {n k : Nat}, n < k → n / 64 < k / 64 ∨ n / 64 = k / 64 ∧ n % 64 < k % 64 := by omega
  have higher : ∀ n : Nat, n / 64 / 64 = n / 4096 ∧ n / 4096 / 64 = n / 262144 := by omega
  rcases last less with above | ⟨same, lower⟩
  · rcases last above with above | ⟨same, lower⟩
    · have third := last above
      rw [(higher v).1, (higher w).1, (higher v).2, (higher w).2] at third
      omega
    · rw [(higher v).1, (higher w).1] at same
      have third : v / 262144 = w / 262144 := by rw [← (higher v).2, same, (higher w).2]
      omega
  · have second : v / 4096 = w / 4096 := by rw [← (higher v).1, same, (higher w).1]
    have third : v / 262144 = w / 262144 := by rw [← (higher v).2, second, (higher w).2]
    omega

/-- Of two characters the smaller one has the smaller bytes: it is no wider, and at one width its digits
come first. -/
theorem utf8EncodeChar_lt {c d : Char} (before : c < d) (front back : Bytes) :
    String.utf8EncodeChar c ++ front < String.utf8EncodeChar d ++ back := by
  have less : c.val.toNat < d.val.toNat := UInt32.lt_iff_toNat_lt.mp before
  have valid : d.val.toNat < 0xD800 ∨ 0xDFFF < d.val.toNat ∧ d.val.toNat < 0x110000 := d.valid
  unfold String.utf8EncodeChar
  generalize c.val.toNat = v at less
  generalize d.val.toNat = w at less valid
  have digits := digits_lt less
  have top_v : v / 262144 % 8 = v / 262144 := Nat.mod_eq_of_lt (by omega)
  have top_w : w / 262144 % 8 = w / 262144 := Nat.mod_eq_of_lt (by omega)
  dsimp only
  -- each pair of widths, the first no wider than the second
  repeat' split
  all_goals simp (disch := omega) only [List.cons_append, top_v, top_w, cons_ofNat_lt]
  all_goals omega

theorem encoded_lt {cs ds : List Char} (before : cs < ds) : encoded cs < encoded ds := by
  induction ds generalizing cs with
  | nil => exact absurd before (List.not_lt_nil cs)
  | cons d ds ih =>
    rw [encoded_cons]
    cases cs with
    | nil =>
      obtain ⟨lead, tail, written, _⟩ := utf8EncodeChar_shape d
      rw [written]
      exact List.nil_lt_cons _ _
    | cons c cs =>
      rw [encoded_cons]
      rcases List.cons_lt_cons_iff.mp before with smaller | ⟨rfl, later⟩
      · exact utf8EncodeChar_lt smaller _ _
      · exact List.append_left_lt (ih later)

theorem utf8_lt {a b : String} (before : a < b) : utf8 a < utf8 b := by
  rw [utf8_eq, utf8_eq]
  exact encoded_lt (String.lt_iff_toList_lt.mp before)

end Text

/-- A table has its keys in the order of their bytes. -/
theorem Table.Ordered.byBytes {α : Type} {t : Table α} (ordered : Table.Ordered t) :
    (Table.keys t).Pairwise fun a b => Text.utf8 a < Text.utf8 b :=
  ordered.imp Text.utf8_lt

end Courier
