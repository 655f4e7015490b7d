import Courier.Http.Headers
import Courier.Proofs.Text
/-!
Headers read back.  Inserting one name shows in what is read of that name and of no other, and a value is
visible text exactly if the text encodes to it.  Headers that were only ever inserted under names in
lower case are `Canonical`; then the order of the names says nothing.
-/
namespace Courier.Http

/-- A visible value and its text determine each other. -/
theorem visible?_iff {v : Bytes} {s : String} :
    visible? v = some s ↔ v.all isVisibleByte = true ∧ v = Text.utf8 s := by
  have ascii : ∀ {x : Bytes}, x.all isVisibleByte = true → ∀ b ∈ x, b.toNat < 128 := by
    intro x all b member
    have visible := List.all_eq_true.mp all b member
    simp only [isVisibleByte, Bool.or_eq_true, beq_iff_eq, Bool.and_eq_true, decide_eq_true_eq] at visible
    rcases visible with rfl | ⟨_, below⟩
    · decide
    · have bound : b.toNat < 127 := below
      omega
  unfold visible?
  constructor
  · intro shown
    split at shown
    · next all =>
      obtain rfl := Option.some.inj shown
      exact ⟨all, (Text.utf8_ofAscii (ascii all)).symm⟩
    · cases shown
  · rintro ⟨all, rfl⟩
    rw [if_pos all]
    exact congrArg some (Text.utf8_inj (Text.utf8_ofAscii (ascii all)))

/-- Whatever is visible is a legal value. -/
theorem isLegalValue_of_visible {v : Bytes} (h : v.all isVisibleByte = true) : isLegalValue v = true := by
  unfold isLegalValue
  rw [List.all_eq_true] at h ⊢
  intro b member
  have visible := h b member
  simp only [isVisibleByte, isValueByte, Bool.or_eq_true, beq_iff_eq, Bool.and_eq_true,
    decide_eq_true_eq, bne_iff_ne, ne_eq] at visible ⊢
  rcases visible with tab | ⟨low, high⟩
  · exact .inl tab
  · refine .inr ⟨low, ?_⟩
    rintro rfl
    exact absurd high (by decide)

/-- Text of printable ASCII characters is visible. -/
theorem all_visible_utf8 {s : String} (printable : ∀ c ∈ s.toList, 0x20 ≤ c.toNat ∧ c.toNat < 0x7F) :
    (Text.utf8 s).all isVisibleByte = true := by
  have visible : ∀ {cs : List Char}, (∀ c ∈ cs, 0x20 ≤ c.toNat ∧ c.toNat < 0x7F) →
      (Text.encoded cs).all isVisibleByte = true := by
    intro cs printable
    induction cs with
    | nil => rfl
    | cons c rest ih =>
      obtain ⟨low, high⟩ := printable c (List.mem_cons_self ..)
      have byte : (UInt8.ofNat c.toNat).toNat = c.toNat :=
        UInt8.toNat_ofNat_of_lt' (Nat.lt_trans high (by decide))
      have shown : isVisibleByte (UInt8.ofNat c.toNat) = true := by
        simp only [isVisibleByte, Bool.or_eq_true, Bool.and_eq_true, decide_eq_true_eq,
          UInt8.le_iff_toNat_le, UInt8.lt_iff_toNat_lt, byte]
        exact .inr ⟨low, high⟩
      rw [Text.encoded_ascii (by omega), List.all_cons, shown,
        ih fun d member => printable d (List.mem_cons_of_mem _ member)]
      rfl
  rw [Text.utf8_eq]
  exact visible printable

theorem all_visible_append {a b : String} (first : (Text.utf8 a).all isVisibleByte = true)
    (second : (Text.utf8 b).all isVisibleByte = true) : (Text.utf8 (a ++ b)).all isVisibleByte = true := by
  rw [Text.utf8_append, List.all_append, first, second]
  rfl

/-! ### Names -/

theorem isTokenChar_ascii {c : Char} (h : isTokenChar c = true) : c.toNat < 128 := by
  have bound : ∀ d : Char, c ≤ d → d.toNat < 128 → c.toNat < 128 := by
    intro d below small
    have := UInt32.le_iff_toNat_le.mp (Char.le_def.mp below)
    exact Nat.lt_of_le_of_lt this small
  simp only [isTokenChar, Bool.or_eq_true, Bool.and_eq_true, decide_eq_true_eq,
    List.contains_eq_mem] at h
  rcases h with ((⟨_, high⟩ | ⟨_, high⟩) | ⟨_, high⟩) | listed
  · exact bound 'z' high (by decide)
  · exact bound 'Z' high (by decide)
  · exact bound '9' high (by decide)
  · have all : ['!', '#', '$', '%', '&', '\'', '*', '+', '-', '.', '^', '_', Char.ofNat 0x60, '|', '~'].all
        (fun d => d.toNat < 128) = true := by decide
    exact of_decide_eq_true (List.all_eq_true.mp all c listed)

/-- What holds of the token characters of a table holds of all of them. -/
theorem forall_tokenChar {P : Char → Prop}
    (table : ∀ n : Fin 128, isTokenChar (Char.ofNat n.val) = true → P (Char.ofNat n.val)) {c : Char}
    (h : isTokenChar c = true) : P c := by
  have listed := table ⟨c.toNat, isTokenChar_ascii h⟩
  rw [Char.ofNat_toNat] at listed
  exact listed h

/-- A token character is visible, and its lower case is one too. -/
theorem isTokenChar_spec {c : Char} (h : isTokenChar c = true) :
    (0x20 ≤ c.toNat ∧ c.toNat < 0x7F) ∧ isTokenChar c.toLower = true :=
  forall_tokenChar (P := fun c => (0x20 ≤ c.toNat ∧ c.toNat < 0x7F) ∧ isTokenChar c.toLower = true)
    (by decide +kernel) h

theorem isToken_visible {s : String} (h : isToken s = true) : (Text.utf8 s).all isVisibleByte = true := by
  simp only [isToken, Bool.and_eq_true, List.all_eq_true] at h
  refine all_visible_utf8 fun c member => ?_
  exact (isTokenChar_spec (h.2 c member)).1

/-- Letter case does not matter to being a token. -/
theorem isTokenChar_of_toLower {c : Char} (h : isTokenChar c.toLower = true) : isTokenChar c = true := by
  by_cases capital : 'A' ≤ c ∧ c ≤ 'Z'
  · simp [isTokenChar, capital.1, capital.2]
  · have same : c.toLower = c := by
      unfold Char.toLower
      exact dif_neg capital
    rwa [same] at h

theorem isToken_lower {s : String} (h : isToken s = true) : isToken (Text.lower s) = true := by
  simp only [isToken, Bool.and_eq_true, bne_iff_ne, ne_eq, List.all_eq_true] at h ⊢
  refine ⟨fun empty => ?_, fun c member => ?_⟩
  · have nothing : (Text.lower s).toList = [] := by rw [empty]; rfl
    refine h.1 (String.toList_inj.mp ?_)
    simpa [Text.lower] using nothing
  · rw [Text.lower, String.toList_ofList] at member
    obtain ⟨d, listed, rfl⟩ := List.mem_map.mp member
    exact (isTokenChar_spec (h.2 d listed)).2

theorem isToken_of_lower {s : String} (h : isToken (Text.lower s) = true) : isToken s = true := by
  simp only [isToken, Bool.and_eq_true, bne_iff_ne, ne_eq, List.all_eq_true] at h ⊢
  refine ⟨?_, fun c member => ?_⟩
  · rintro rfl
    exact h.1 rfl
  · refine isTokenChar_of_toLower (h.2 _ ?_)
    simpa [Text.lower] using ⟨c, member, rfl⟩

theorem utf8ByteSize_of_isToken {s : String} (h : isToken s = true) : s.utf8ByteSize = s.toList.length := by
  simp only [isToken, Bool.and_eq_true, List.all_eq_true] at h
  exact Text.utf8ByteSize_ascii fun c member => isTokenChar_ascii (h.2 c member)

/-- A short token in lower case is the stored form of its spellings in any case. -/
theorem headerName?_of_lower {s name : String} (lowered : Text.lower s = name) (token : isToken name = true)
    (short : name.toList.length ≤ nameLimit) : headerName? s = some name := by
  subst lowered
  have spelled := isToken_of_lower token
  have size : s.utf8ByteSize ≤ nameLimit := by
    rw [utf8ByteSize_of_isToken spelled]
    simpa [Text.lower] using short
  simp [headerName?, spelled, size]

/-- The stored form of a name is a short token in lower case. -/
theorem headerName?_stored {s name : String} (stored : headerName? s = some name) :
    name = Text.lower s ∧ isToken name = true ∧ name.toList.length ≤ nameLimit := by
  unfold headerName? at stored
  split at stored
  · next fits =>
    rw [Bool.and_eq_true, decide_eq_true_eq] at fits
    obtain rfl := Option.some.inj stored
    refine ⟨rfl, isToken_lower fits.1, ?_⟩
    have size := fits.2
    rw [utf8ByteSize_of_isToken fits.1] at size
    simpa [Text.lower] using size
  · cases stored

namespace Headers

variable {name other : String}

theorem get?_remove_of_ne (different : other ≠ name) (h : Headers) :
    get? other (remove name h) = get? other h := by
  induction h with
  | nil => rfl
  | cons e rest ih =>
    obtain ⟨n, v⟩ := e
    by_cases same : n = name
    · subst same
      have dropped : remove n ((n, v) :: rest) = remove n rest := by simp [remove]
      rw [dropped, ih, get?, if_neg (Ne.symm different)]
    · have kept : remove name ((n, v) :: rest) = (n, v) :: remove name rest := by simp [remove, same]
      rw [kept, get?, get?, ih]

theorem get?_insert_self (name : String) (v : Bytes) (h : Headers) :
    get? name (insert name v h) = some v := by
  induction h with
  | nil => simp [insert, get?]
  | cons e rest ih =>
    obtain ⟨n, x⟩ := e
    rw [insert]
    split
    · simp [get?]
    · next different =>
      rw [get?, if_neg different]
      exact ih

theorem get?_insert_of_ne (different : other ≠ name) (v : Bytes) (h : Headers) :
    get? other (insert name v h) = get? other h := by
  induction h with
  | nil => simp [insert, get?, Ne.symm different]
  | cons e rest ih =>
    obtain ⟨n, x⟩ := e
    rw [insert]
    split
    · next same =>
      subst same
      rw [get?, get?, if_neg (Ne.symm different), if_neg (Ne.symm different),
        get?_remove_of_ne different]
    · rw [get?, get?, ih]

theorem getAll_remove (name : String) (h : Headers) : getAll name (remove name h) = [] := by
  have none_left : (remove name h).filter (fun e => e.1 == name) = [] := by simp [remove]
  rw [getAll, none_left, List.map_nil]

/-- The inserted value is the only one. -/
theorem getAll_insert_self (name : String) (v : Bytes) (h : Headers) :
    getAll name (insert name v h) = [v] := by
  induction h with
  | nil => simp [insert, getAll]
  | cons e rest ih =>
    obtain ⟨n, x⟩ := e
    rw [insert]
    split
    · have later := getAll_remove name rest
      unfold getAll at later ⊢
      rw [List.filter_cons_of_pos (by simp), List.map_cons, later]
    · next different =>
      unfold getAll at ih ⊢
      rw [List.filter_cons_of_neg (by simpa using different), ih]

theorem getAll_insert_of_ne (different : other ≠ name) (v : Bytes) (h : Headers) :
    getAll other (insert name v h) = getAll other h := by
  have kept : ∀ h : Headers, (remove name h).filter (fun e => e.1 == other) =
      h.filter fun e => e.1 == other := by
    intro h
    unfold remove
    rw [List.filter_filter]
    refine List.filter_congr fun e _ => ?_
    by_cases found : e.1 = other <;> simp [found, different]
  unfold getAll
  induction h with
  | nil => simp [insert, Ne.symm different]
  | cons e rest ih =>
    obtain ⟨n, x⟩ := e
    rw [insert]
    split
    · next same =>
      subst same
      rw [List.filter_cons_of_neg (by simpa using Ne.symm different),
        List.filter_cons_of_neg (by simpa using Ne.symm different), kept]
    · by_cases found : n = other
      · rw [List.filter_cons_of_pos (by simpa using found), List.filter_cons_of_pos (by simpa using found),
          List.map_cons, List.map_cons, ih]
      · rw [List.filter_cons_of_neg (by simpa using found), List.filter_cons_of_neg (by simpa using found), ih]

theorem get?_tryInsertText_of_ne (different : other ≠ name) (text : String) (h : Headers) :
    get? other (tryInsertText name text h) = get? other h := by
  unfold tryInsertText
  split
  · exact get?_insert_of_ne different _ h
  · rfl

theorem get?_tryInsertText_self {text : String} (legal : isLegalValue (Text.utf8 text) = true)
    (h : Headers) : get? name (tryInsertText name text h) = some (Text.utf8 text) := by
  unfold tryInsertText
  rw [if_pos legal]
  exact get?_insert_self name _ h

theorem mem_of_get? {v : Bytes} {h : Headers} (found : get? name h = some v) : (name, v) ∈ h := by
  induction h with
  | nil => cases found
  | cons e rest ih =>
    obtain ⟨n, x⟩ := e
    rw [get?] at found
    split at found
    · next same =>
      obtain rfl := Option.some.inj found
      exact same ▸ List.mem_cons_self ..
    · exact List.mem_cons_of_mem _ (ih found)

theorem tryInsertText_of_illegal {text : String} (illegal : isLegalValue (Text.utf8 text) = false)
    (h : Headers) : tryInsertText name text h = h := by
  unfold tryInsertText
  rw [illegal]
  rfl

/-! ### Names that stand once -/

/-- Every name stands once, and in lower case. -/
structure Canonical (h : Headers) : Prop where
  distinct : (h.map Prod.fst).Nodup
  lowered : ∀ e ∈ h, Text.lower e.1 = e.1

/-- Then what is among the headers is what is found. -/
theorem Canonical.get?_of_mem {v : Bytes} {h : Headers} (canonical : Canonical h) (member : (name, v) ∈ h) :
    get? name h = some v := by
  have distinct := canonical.distinct
  induction h with
  | nil => cases member
  | cons e rest ih =>
    obtain ⟨n, x⟩ := e
    rw [List.map_cons, List.nodup_cons] at distinct
    rw [get?]
    rcases List.mem_cons.mp member with first | later
    · cases first
      rw [if_pos rfl]
    · have different : n ≠ name := by
        rintro rfl
        exact distinct.1 (List.mem_map.mpr ⟨_, later, rfl⟩)
      rw [if_neg different]
      exact ih ⟨distinct.2, fun e member => canonical.lowered e (List.mem_cons_of_mem _ member)⟩ later
        distinct.2

theorem Canonical.nil : Canonical [] := ⟨List.nodup_nil, nofun⟩

theorem mem_insert {v : Bytes} {h : Headers} {e : String × Bytes} (member : e ∈ insert name v h) :
    e = (name, v) ∨ e ∈ h ∧ e.1 ≠ name := by
  induction h with
  | nil => exact .inl (by simpa [insert] using member)
  | cons x rest ih =>
    obtain ⟨n, y⟩ := x
    rw [insert] at member
    split at member
    · rcases List.mem_cons.mp member with rfl | kept
      · exact .inl rfl
      · have kept := List.mem_filter.mp kept
        exact .inr ⟨List.mem_cons_of_mem _ kept.1, by simpa using kept.2⟩
    · next different =>
      rcases List.mem_cons.mp member with rfl | later
      · exact .inr ⟨List.mem_cons_self .., different⟩
      · rcases ih later with rfl | ⟨old, other⟩
        · exact .inl rfl
        · exact .inr ⟨List.mem_cons_of_mem _ old, other⟩

/-- What is true of the old entries and of the new one is true of all. -/
theorem all_insert {P : String × Bytes → Prop} {v : Bytes} {h : Headers} (old : ∀ e ∈ h, P e)
    (new : P (name, v)) : ∀ e ∈ insert name v h, P e := by
  intro e member
  rcases mem_insert member with rfl | ⟨kept, _⟩
  · exact new
  · exact old e kept

theorem all_tryInsertText {P : String × Bytes → Prop} {text : String} {h : Headers} (old : ∀ e ∈ h, P e)
    (new : isLegalValue (Text.utf8 text) = true → P (name, Text.utf8 text)) :
    ∀ e ∈ tryInsertText name text h, P e := by
  unfold tryInsertText
  split
  · next legal => exact all_insert old (new legal)
  · exact old

theorem nodup_insert (name : String) (v : Bytes) {h : Headers} (distinct : (h.map Prod.fst).Nodup) :
    ((insert name v h).map Prod.fst).Nodup := by
  induction h with
  | nil => simp [insert]
  | cons x rest ih =>
    obtain ⟨n, y⟩ := x
    rw [List.map_cons, List.nodup_cons] at distinct
    rw [insert]
    split
    · rw [List.map_cons, List.nodup_cons]
      refine ⟨?_, distinct.2.sublist (List.filter_sublist.map Prod.fst)⟩
      simp [remove]
    · next different =>
      rw [List.map_cons, List.nodup_cons]
      refine ⟨?_, ih distinct.2⟩
      intro again
      obtain ⟨e, member, same⟩ := List.mem_map.mp again
      rcases mem_insert member with rfl | ⟨old, _⟩
      · exact different same.symm
      · exact distinct.1 (List.mem_map.mpr ⟨e, old, same⟩)

theorem Canonical.insert {h : Headers} (canonical : Canonical h) (lower : Text.lower name = name)
    (v : Bytes) : Canonical (insert name v h) where
  distinct := nodup_insert name v canonical.distinct
  lowered := by
    intro e member
    rcases mem_insert member with rfl | ⟨old, _⟩
    · exact lower
    · exact canonical.lowered e old

theorem Canonical.tryInsertText {h : Headers} (canonical : Canonical h) (lower : Text.lower name = name)
    (text : String) : Canonical (tryInsertText name text h) := by
  unfold Headers.tryInsertText
  split
  · exact canonical.insert lower _
  · exact canonical

theorem Canonical.mem_iff {h : Headers} (canonical : Canonical h) {e : String × Bytes} :
    e ∈ h ↔ get? e.1 h = some e.2 :=
  ⟨fun member => canonical.get?_of_mem member, fun found => mem_of_get? found⟩

/-- Headers in which the same is found are the same but for their order. -/
theorem Canonical.perm_of_get? {h h' : Headers} (canonical : Canonical h) (canonical' : Canonical h')
    (same : ∀ name, get? name h = get? name h') : h.Perm h' := by
  refine (List.perm_ext_iff_of_nodup (List.Nodup.of_map _ canonical.distinct)
    (List.Nodup.of_map _ canonical'.distinct)).mpr fun e => ?_
  rw [canonical.mem_iff, canonical'.mem_iff, same]

end Headers
end Courier.Http
