import Mathlib
import Courier.Text
/-!
Text taken apart.  Searching and comparing text is searching and comparing lists of characters, so the
laws of `List` about infixes and prefixes apply; lowering letters goes character by character.  Encoding
goes character by character as well, and an ASCII character is a byte.
-/
namespace Courier.Text

theorem lower_append (a b : String) : lower (a ++ b) = lower a ++ lower b := by
  simp [lower, String.toList_append, String.ofList_append]

theorem lower_lower (s : String) : lower (lower s) = lower s := by
  simp [lower, Function.comp_def]

/-- Text without small letters is its own capital form. -/
theorem upper_of_clear {s : String} (clear : ∀ c ∈ s.toList, c.isLower = false) : upper s = s := by
  have same : ∀ c ∈ s.toList, c.toUpper = c := by
    intro c member
    have large := clear c member
    unfold Char.toUpper
    refine dif_neg fun small => ?_
    have lower : c.isLower = true := by
      simpa [Char.isLower] using small
    rw [lower] at large
    cases large
  rw [upper, List.map_congr_left same, List.map_id', String.ofList_toList]

/-- Text without blanks has none to lose at its ends. -/
theorem trim_of_clear {s : String} (clear : ∀ c ∈ s.toList, isBlank c = false) : trim s = s := by
  have kept : ∀ {cs : List Char}, (∀ c ∈ cs, isBlank c = false) → cs.dropWhile isBlank = cs := by
    intro cs clear
    cases cs with
    | nil => rfl
    | cons c rest => rw [List.dropWhile_cons_of_neg (by simp [clear c (List.mem_cons_self ..)])]
  have kept' : ∀ c ∈ s.toList.reverse, isBlank c = false := by
    intro c member
    exact clear c (List.mem_reverse.mp member)
  rw [trim, kept clear, dropEndWhile, kept kept', List.reverse_reverse, String.ofList_toList]

/-- Trimmed text has nothing left to trim. -/
theorem trim_trim (s : String) : trim (trim s) = trim s := by
  have fronted : ∀ cs : List Char, ((cs.dropWhile isBlank).rdropWhile isBlank).dropWhile isBlank =
      (cs.dropWhile isBlank).rdropWhile isBlank := by
    intro cs
    have begun := List.rdropWhile_prefix isBlank (cs.dropWhile isBlank)
    refine List.dropWhile_eq_self_iff.mpr fun some_left => ?_
    rw [begun.getElem some_left]
    exact List.dropWhile_eq_self_iff.mp (List.dropWhile_idempotent isBlank cs) _
  have ended : ∀ cs, dropEndWhile isBlank cs = cs.rdropWhile isBlank := fun _ => rfl
  unfold trim
  rw [String.toList_ofList, ended, ended, fronted, List.rdropWhile_idempotent]

theorem hasInfix_iff (needle hay : List Char) : hasInfix needle hay = true ↔ needle <:+: hay := by
  induction hay with
  | nil => simp [hasInfix]
  | cons c rest ih => rw [hasInfix, Bool.or_eq_true, ih, List.isPrefixOf_iff_prefix, List.infix_cons_iff]

theorem contains_iff (s needle : String) :
    contains s needle = true ↔ needle.toList <:+: s.toList :=
  hasInfix_iff needle.toList s.toList

theorem contains_append_left {a needle : String} (h : contains a needle = true) (b : String) :
    contains (a ++ b) needle = true := by
  rw [contains_iff] at h ⊢
  rw [String.toList_append]
  exact List.infix_append_of_infix_left h

theorem contains_append_right {b needle : String} (h : contains b needle = true) (a : String) :
    contains (a ++ b) needle = true := by
  rw [contains_iff] at h ⊢
  rw [String.toList_append]
  exact List.infix_append_of_infix_right h

/-- A needle that is not in the first part and has no beginning at its end is in the second part. -/
theorem contains_append_of_clear {a needle : String} (absent : contains a needle = false)
    (clear : ∀ n, n < needle.toList.length → n ≠ 0 → ¬ needle.toList.take n <:+ a.toList) (b : String) :
    contains (a ++ b) needle = contains b needle := by
  rw [Bool.eq_iff_iff]
  constructor
  · intro found
    rw [contains_iff, String.toList_append, List.infix_append_iff_ne_nil] at found
    rcases found with left | right | ⟨front, back, some_front, some_back, split, ends, _⟩
    · rw [← contains_iff, absent] at left
      cases left
    · rwa [contains_iff]
    · have shorter : front.length < needle.toList.length := by
        rw [split, List.length_append]
        have := List.length_pos_iff.mpr some_back
        omega
      have taken : needle.toList.take front.length = front := by rw [split, List.take_left]
      have none_there := clear front.length shorter
        (by simpa using some_front)
      rw [taken] at none_there
      exact absurd ends none_there
  · intro found
    exact contains_append_right found a

theorem startsWith_iff (s start : String) :
    startsWith s start = true ↔ start.toList <+: s.toList := by
  rw [startsWith, List.isPrefixOf_iff_prefix]

theorem startsWith_append {a start : String} (h : startsWith a start = true) (b : String) :
    startsWith (a ++ b) start = true := by
  rw [startsWith_iff] at h ⊢
  rw [String.toList_append]
  exact h.trans (List.prefix_append _ _)

/-- Text that begins with another letter than the opening does not begin with it. -/
theorem startsWith_of_head {s start : String} {c d : Char} (text : s.toList.head? = some c)
    (opening : start.toList.head? = some d) (different : c ≠ d) : startsWith s start = false := by
  rw [Bool.eq_false_iff, ne_eq, startsWith_iff]
  rintro ⟨rest, whole⟩
  obtain ⟨ds, first⟩ := List.head?_eq_some_iff.mp opening
  rw [← whole, first] at text
  exact different (Option.some.inj text).symm

theorem dropStart?_iff {s start rest : String} : dropStart? s start = some rest ↔ s = start ++ rest := by
  unfold dropStart?
  constructor
  · intro cut
    split at cut
    · next found =>
      obtain ⟨back, whole⟩ := (startsWith_iff s start).mp found
      obtain rfl := Option.some.inj cut
      rw [← String.toList_inj, String.toList_append, String.toList_ofList, ← whole, List.drop_left]
    · cases cut
  · rintro rfl
    have found : startsWith (start ++ rest) start = true := by
      rw [startsWith_iff, String.toList_append]
      exact List.prefix_append _ _
    rw [if_pos found, String.toList_append, List.drop_left, String.ofList_toList]

theorem splitOn_clear {sep : Char} {cs : List Char} (clear : sep ∉ cs) : splitOn sep cs = [cs] := by
  induction cs with
  | nil => rfl
  | cons c cs ih =>
    obtain ⟨here, later⟩ := not_or.mp (mt List.mem_cons.mpr clear)
    have other : (c == sep) = false := beq_eq_false_iff_ne.mpr (Ne.symm here)
    rw [splitOn, other, ih later]
    rfl

theorem splitOn_append {sep : Char} {front : List Char} (clear : sep ∉ front) (back : List Char) :
    splitOn sep (front ++ sep :: back) = front :: splitOn sep back := by
  induction front with
  | nil => rw [List.nil_append, splitOn, beq_self_eq_true, if_pos rfl]
  | cons c front ih =>
    obtain ⟨here, later⟩ := not_or.mp (mt List.mem_cons.mpr clear)
    have other : (c == sep) = false := beq_eq_false_iff_ne.mpr (Ne.symm here)
    rw [List.cons_append, splitOn, other, ih later]
    rfl

/-! ### Encoding -/

/-- The bytes of characters, one after the other. -/
def encoded (cs : List Char) : Bytes := cs.flatMap String.utf8EncodeChar

@[simp] theorem encoded_nil : encoded [] = [] := rfl

theorem encoded_cons (c : Char) (cs : List Char) :
    encoded (c :: cs) = String.utf8EncodeChar c ++ encoded cs := List.flatMap_cons ..

theorem encoded_append (a b : List Char) : encoded (a ++ b) = encoded a ++ encoded b :=
  List.flatMap_append ..

theorem utf8_ofList (cs : List Char) : utf8 (String.ofList cs) = encoded cs := by
  simp [utf8, String.toByteArray_ofList, List.utf8Encode, encoded]

theorem utf8_eq (s : String) : utf8 s = encoded s.toList := by
  rw [← utf8_ofList, String.ofList_toList]

theorem utf8_append (a b : String) : utf8 (a ++ b) = utf8 a ++ utf8 b := by
  rw [utf8_eq, utf8_eq, utf8_eq, String.toList_append, encoded_append]

theorem utf8_inj {a b : String} (h : utf8 a = utf8 b) : a = b := by
  have read := ofUtf8?_utf8 a
  rw [h, ofUtf8?_utf8] at read
  exact (Option.some.inj read).symm

/-- What holds of each byte in a table of them holds of all bytes. -/
theorem forall_byte {P : UInt8 → Prop} (table : ∀ n : Fin 256, P (UInt8.ofNat n.val)) (b : UInt8) : P b := by
  have listed := table ⟨b.toNat, b.toNat_lt⟩
  rwa [UInt8.ofNat_toNat] at listed

theorem utf8EncodeChar_ascii {c : Char} (h : c.toNat < 128) :
    String.utf8EncodeChar c = [UInt8.ofNat c.toNat] := by
  have small : c.val.toNat ≤ 0x7f := by
    change c.toNat ≤ 127
    omega
  simp only [String.utf8EncodeChar, small, if_true]
  rfl

theorem encoded_ascii {c : Char} (h : c.toNat < 128) (cs : List Char) :
    encoded (c :: cs) = UInt8.ofNat c.toNat :: encoded cs := by
  rw [encoded_cons, utf8EncodeChar_ascii h]
  rfl

/-- ASCII text has as many bytes as characters. -/
theorem utf8ByteSize_ascii {s : String} (small : ∀ c ∈ s.toList, c.toNat < 128) :
    s.utf8ByteSize = s.toList.length := by
  have single : ∀ {cs : List Char}, (∀ c ∈ cs, c.toNat < 128) → (encoded cs).length = cs.length := by
    intro cs small
    induction cs with
    | nil => rfl
    | cons c rest ih =>
      rw [encoded_ascii (small c (List.mem_cons_self ..)), List.length_cons,
        ih fun d member => small d (List.mem_cons_of_mem _ member), List.length_cons]
  have size : s.utf8ByteSize = (utf8 s).length := by simp [utf8]
  rw [size, utf8_eq, single small]

/-- Characters beyond ASCII are made of bytes beyond ASCII. -/
theorem utf8EncodeChar_high {c : Char} (h : 128 ≤ c.toNat) :
    ∀ b ∈ String.utf8EncodeChar c, 128 ≤ b.toNat := by
  have large : ¬ c.val.toNat ≤ 0x7f := by
    change ¬ c.toNat ≤ 127
    omega
  intro b member
  simp only [String.utf8EncodeChar, large, if_false] at member
  split at member
  · simp only [List.mem_cons, List.not_mem_nil, or_false] at member
    rcases member with rfl | rfl <;> rw [UInt8.toNat_ofNat'] <;> omega
  · split at member
    · simp only [List.mem_cons, List.not_mem_nil, or_false] at member
      rcases member with rfl | rfl | rfl <;> rw [UInt8.toNat_ofNat'] <;> omega
    · simp only [List.mem_cons, List.not_mem_nil, or_false] at member
      rcases member with rfl | rfl | rfl | rfl <;> rw [UInt8.toNat_ofNat'] <;> omega

theorem toNat_ofNat_byte (b : UInt8) : (Char.ofNat b.toNat).toNat = b.toNat := by
  have small := b.toNat_lt
  have valid : b.toNat.isValidChar := .inl (by omega)
  simp [Char.ofNat, valid, Char.toNat, Char.ofNatAux]

/-- Text read from ASCII bytes encodes to these bytes. -/
theorem utf8_ofAscii {v : Bytes} (h : ∀ b ∈ v, b.toNat < 128) : utf8 (ofAscii v) = v := by
  unfold ofAscii
  rw [utf8_ofList]
  induction v with
  | nil => rfl
  | cons b rest ih =>
    have small : (Char.ofNat b.toNat).toNat < 128 := by
      rw [toNat_ofNat_byte]
      exact h b (List.mem_cons_self ..)
    rw [List.map_cons, encoded_ascii small, toNat_ofNat_byte,
      ih fun x member => h x (List.mem_cons_of_mem _ member)]
    simp

end Courier.Text
