import Courier.Wire.Struct
import Courier.Proofs.Table
import Courier.Proofs.Wire.Item
/-!
Structs on the wire, read back.  A value is written with the entries of its structs in some order, at every
depth; reading it gives the value with its tables, as long as the reader may nest as deep as the value does.
The induction is on the value as it is written, and each case settles the fields of one message.
-/
namespace Courier.Wire

/-! ### Depth, order and soundness -/

mutual

/-- How deep messages nest in a value, itself included.  An entry of a map is a message as well, but one
whose value has no kind holds no other. -/
def valueDepth : Value → Nat
  | .unset => 1
  | .null _ => 1
  | .number _ => 1
  | .string _ => 1
  | .bool _ => 1
  | .struct fields => entriesDepth fields + 2
  | .list items => itemsDepth items + 2
termination_by structural v => v

def itemsDepth : List Value → Nat
  | [] => 0
  | v :: vs => max (valueDepth v) (itemsDepth vs)
termination_by structural l => l

def entriesDepth : List (String × Value) → Nat
  | [] => 0
  | e :: es => max (entryDepth e) (entriesDepth es)
termination_by structural l => l

def entryDepth : String × Value → Nat
  | (_, .unset) => 1
  | (_, v) => valueDepth v + 1
termination_by structural e => e

end

def structDepth (s : Struct) : Nat := entriesDepth s + 1

mutual

/-- The first value is the second, but that the entries of its structs stand in any order. -/
def Arranged : Value → Value → Prop
  | .unset, v => v = .unset
  | .null n, v => v = .null n
  | .number x, v => v = .number x
  | .string s, v => v = .string s
  | .bool b, v => v = .bool b
  | .struct es, v => ∃ gs fs, v = .struct fs ∧ ArrangedEntries es gs ∧ gs.Perm fs
  | .list ws, v => ∃ vs, v = .list vs ∧ ArrangedItems ws vs
termination_by structural w => w

def ArrangedItems : List Value → List Value → Prop
  | [], vs => vs = []
  | w :: ws, vs => ∃ v vs', vs = v :: vs' ∧ Arranged w v ∧ ArrangedItems ws vs'
termination_by structural l => l

def ArrangedEntries : List (String × Value) → List (String × Value) → Prop
  | [], gs => gs = []
  | e :: es, gs => ∃ g gs', gs = g :: gs' ∧ ArrangedEntry e g ∧ ArrangedEntries es gs'
termination_by structural l => l

def ArrangedEntry : String × Value → String × Value → Prop
  | (k, w), g => g.1 = k ∧ Arranged w g.2
termination_by structural e => e

end

/-- The struct is written with its entries in this order, and so are the structs in it. -/
def ArrangedStruct (es : List (String × Value)) (s : Struct) : Prop :=
  ∃ gs, ArrangedEntries es gs ∧ gs.Perm s

mutual

/-- All structs are tables, and a null has a number of 32 bits. -/
def Sound : Value → Prop
  | .unset => True
  | .null n => Word.isSigned32 n = true
  | .number _ => True
  | .string _ => True
  | .bool _ => True
  | .struct fields => Table.Ordered fields ∧ SoundEntries fields
  | .list items => SoundItems items
termination_by structural v => v

def SoundItems : List Value → Prop
  | [] => True
  | v :: vs => Sound v ∧ SoundItems vs
termination_by structural l => l

def SoundEntries : List (String × Value) → Prop
  | [] => True
  | e :: es => SoundEntry e ∧ SoundEntries es
termination_by structural l => l

def SoundEntry : String × Value → Prop
  | (_, v) => Sound v
termination_by structural e => e

end

structure SoundStruct (s : Struct) : Prop where
  ordered : Table.Ordered s
  entries : SoundEntries s

theorem valueDepth_pos (v : Value) : 0 < valueDepth v := by
  cases v <;> simp only [valueDepth] <;> omega

theorem entryDepth_of_ne {k : String} {v : Value} (kind : v ≠ .unset) :
    entryDepth (k, v) = valueDepth v + 1 := by
  cases v <;> first | exact absurd rfl kind | rfl

theorem encodeEntry_of_ne {k : String} {v : Value} (kind : v ≠ .unset) :
    encodeEntry (k, v) = textOrNone 1 k ++ bytesField 2 (encodeValue v) := by
  cases v <;> first | exact absurd rfl kind | rfl

theorem entriesDepth_le {l : List (String × Value)} {n : Nat} :
    entriesDepth l ≤ n ↔ ∀ e ∈ l, entryDepth e ≤ n := by
  induction l with
  | nil => simp [entriesDepth]
  | cons e rest ih => simp only [entriesDepth, max_le_iff, ih, List.forall_mem_cons]

theorem entriesDepth_perm {l l' : List (String × Value)} (order : l.Perm l') :
    entriesDepth l = entriesDepth l' := by
  have within : ∀ {a b : List (String × Value)}, a.Perm b → entriesDepth a ≤ entriesDepth b := fun order =>
    entriesDepth_le.mpr fun e member => entriesDepth_le.mp (Nat.le_refl _) e (order.mem_iff.mp member)
  exact Nat.le_antisymm (within order) (within order.symm)

theorem soundEntries_iff {l : List (String × Value)} : SoundEntries l ↔ ∀ e ∈ l, SoundEntry e := by
  induction l with
  | nil => simp [SoundEntries]
  | cons e rest ih => simp only [SoundEntries, ih, List.forall_mem_cons]

theorem soundEntries_perm {l l' : List (String × Value)} (order : l.Perm l') (sound : SoundEntries l') :
    SoundEntries l :=
  soundEntries_iff.mpr fun e member => soundEntries_iff.mp sound e (order.mem_iff.mp member)

theorem arranged_unset {w : Value} (arranged : Arranged w .unset) : w = .unset := by
  cases w with
  | unset => rfl
  | null | bool | number | string => cases arranged
  | list ws =>
    obtain ⟨vs, same, _⟩ := arranged
    cases same
  | struct es =>
    obtain ⟨gs, fs, same, _⟩ := arranged
    cases same

mutual

/-- The order of the tables is one that values may be written in. -/
theorem arranged_refl (v : Value) : Arranged v v := by
  cases v with
  | unset | null | number | string | bool => rfl
  | struct fields => exact ⟨_, _, rfl, arrangedEntries_refl fields, .refl _⟩
  | list items => exact ⟨_, rfl, arrangedItems_refl items⟩
termination_by structural v

theorem arrangedItems_refl (vs : List Value) : ArrangedItems vs vs := by
  cases vs with
  | nil => rfl
  | cons v rest => exact ⟨_, _, rfl, arranged_refl v, arrangedItems_refl rest⟩
termination_by structural vs

theorem arrangedEntries_refl (es : List (String × Value)) : ArrangedEntries es es := by
  cases es with
  | nil => rfl
  | cons e rest => exact ⟨_, _, rfl, arrangedEntry_refl e, arrangedEntries_refl rest⟩
termination_by structural es

theorem arrangedEntry_refl (e : String × Value) : ArrangedEntry e e := by
  obtain ⟨k, v⟩ := e
  exact ⟨rfl, arranged_refl v⟩
termination_by structural e

end

theorem ArrangedStruct.of_perm {es : List (String × Value)} {s : Struct} (order : es.Perm s) :
    ArrangedStruct es s :=
  ⟨es, arrangedEntries_refl es, order⟩

/-! ### What each message is read from -/

def listItem (v : Value) : Item := ⟨1, .bytes (encodeValue v)⟩

def entryItem (e : String × Value) : Item := ⟨1, .entry (encodeEntry e)⟩

theorem written_items {vs : List Value} (fits : Fits (encodeItems vs)) :
    Written [] (encodeItems vs) (vs.map listItem) := by
  induction vs with
  | nil => exact .nil
  | cons v rest ih =>
    rw [encodeItems] at fits ⊢
    exact (written_bytesField (.ofSmall (by decide)) fits.left.content rfl).append (ih fits.right)

theorem written_entries {es : List (String × Value)} (fits : Fits (encodeEntries es)) :
    Written [1] (encodeEntries es) (es.map entryItem) := by
  induction es with
  | nil => exact .nil
  | cons e rest ih =>
    rw [encodeEntries] at fits ⊢
    exact (written_entry (.ofSmall (by decide)) fits.left.content rfl).append (ih fits.right)

/-- The field of a value that has a kind. -/
def valueItem : Value → List Item
  | .unset => []
  | .null n => [⟨1, .varint (wordOfInt n)⟩]
  | .number x => [⟨2, .fixed64 x.bits.toNat⟩]
  | .string s => [⟨3, .bytes (Text.utf8 s)⟩]
  | .bool b => [⟨4, .varint (if b then 1 else 0)⟩]
  | .struct fields => [⟨5, .bytes (encodeEntries fields)⟩]
  | .list items => [⟨6, .bytes (encodeItems items)⟩]

theorem written_value {v : Value} (fits : Fits (encodeValue v)) :
    Written [] (encodeValue v) (valueItem v) := by
  cases v with
  | unset => exact .nil
  | null n => exact written_varint (.ofSmall (by decide)) (wordOfInt_lt n) rfl
  | number x => exact written_fixed64 (.ofSmall (by decide)) x.bits.toNat_lt rfl
  | bool b =>
    have small : (if b then 1 else 0) < Word.size64 := by cases b <;> decide
    exact written_varint (.ofSmall (by decide)) small rfl
  | string s => exact written_bytesField (.ofSmall (by decide)) fits.content rfl
  | struct fields => exact written_bytesField (.ofSmall (by decide)) fits.content rfl
  | list items => exact written_bytesField (.ofSmall (by decide)) fits.content rfl

/-- The fields of an entry: its name unless that is empty, its value if that has a kind. -/
def entryItems : String × Value → List Item
  | (k, .unset) => presentItem 1 (Text.utf8 k)
  | (k, v) => presentItem 1 (Text.utf8 k) ++ [⟨2, .bytes (encodeValue v)⟩]

theorem entryItems_of_ne {k : String} {v : Value} (kind : v ≠ .unset) :
    entryItems (k, v) = presentItem 1 (Text.utf8 k) ++ [⟨2, .bytes (encodeValue v)⟩] := by
  cases v <;> first | exact absurd rfl kind | rfl

theorem written_entryItems {e : String × Value} (fits : Fits (encodeEntry e)) :
    Written [] (encodeEntry e) (entryItems e) := by
  obtain ⟨k, v⟩ := e
  have named : IsTag 1 := .ofSmall (by decide)
  by_cases kind : v = .unset
  · subst kind
    exact written_bytesOrNone named (Fits.present fits) rfl
  · rw [encodeEntry_of_ne kind] at fits ⊢
    rw [entryItems_of_ne kind]
    exact (written_bytesOrNone named (Fits.present fits.left) rfl).append
      (written_bytesField (.ofSmall (by decide)) fits.right.content rfl)

/-! ### Reading one message -/

/-- What a field does to the struct that is being read. -/
def structStep (budget : Nat) (s : Struct) (item : Item) : Option Struct :=
  match item.payload with
  | .entry e => (mergeEntry budget ("", .unset) e).map fun kv => Table.insert kv.1 kv.2 s
  | _ => skipUnknown budget s

theorem mergeStruct_written {b : Bytes} {items : List Item} (written : Written [1] b items) (budget : Nat)
    (s : Struct) : mergeStruct (budget + 1) s b = items.foldlM (structStep budget) s := by
  rw [mergeStruct, written.items? budget]
  rfl

def entryStep (budget : Nat) (kv : String × Value) (item : Item) : Option (String × Value) :=
  match item.tag, item.payload with
  | 1, p => (textPayload? p).map fun k => (k, kv.2)
  | 2, .bytes v => (mergeValue budget kv.2 v).map fun v => (kv.1, v)
  | 2, _ => none
  | _, _ => skipUnknown budget kv

theorem mergeEntry_written {b : Bytes} {items : List Item} (written : Written [] b items) (budget : Nat)
    (kv : String × Value) : mergeEntry (budget + 1) kv b = items.foldlM (entryStep budget) kv := by
  rw [mergeEntry, written.items? budget]
  rfl

def valueStep (budget : Nat) (v : Value) (item : Item) : Option Value :=
  match item.tag, item.payload with
  | 1, .varint n => some (.null (int32OfWord n))
  | 2, .fixed64 n => some (.number ⟨UInt64.ofNat n⟩)
  | 3, p => (textPayload? p).map .string
  | 4, .varint n => some (.bool (n != 0))
  | 5, .bytes s => (mergeStruct budget (structOf v) s).map .struct
  | 6, .bytes l => (mergeList budget (listOf v) l).map .list
  | n + 1, _ => if n < 6 then none else skipUnknown budget v
  | 0, _ => none

theorem mergeValue_written {b : Bytes} {items : List Item} (written : Written [] b items) (budget : Nat)
    (v : Value) : mergeValue (budget + 1) v b = items.foldlM (valueStep budget) v := by
  rw [mergeValue, written.items? budget]
  rfl

def listStep (budget : Nat) (l : List Value) (item : Item) : Option (List Value) :=
  match item.tag, item.payload with
  | 1, .bytes v => (mergeValue budget .unset v).map fun v => l ++ [v]
  | 1, _ => none
  | _, _ => skipUnknown budget l

theorem mergeList_written {b : Bytes} {items : List Item} (written : Written [] b items) (budget : Nat)
    (l : List Value) : mergeList (budget + 1) l b = items.foldlM (listStep budget) l := by
  rw [mergeList, written.items? budget]
  rfl

/-! ### Reading what was written -/

/-- The fields of one message make `v`, unless the messages in it nest too deep. -/
theorem mergeValue_of_fields {w v : Value} (fits : Fits (encodeValue w))
    (read : ∀ budget, (valueItem w).foldlM (valueStep budget) .unset =
      if valueDepth v ≤ budget + 1 then some v else none) (budget : Nat) :
    mergeValue budget .unset (encodeValue w) = if valueDepth v ≤ budget then some v else none := by
  cases budget with
  | zero => rw [mergeValue, if_neg (Nat.not_le.mpr (valueDepth_pos v))]
  | succ budget => rw [mergeValue_written (written_value fits), read]

theorem mergeStruct_of_fields {es gs : List (String × Value)} {s : Struct} (fits : Fits (encodeEntries es))
    (order : gs.Perm s) (ordered : Table.Ordered s)
    (read : ∀ budget t, (es.map entryItem).foldlM (structStep budget) t =
      if entriesDepth gs ≤ budget then some (gs.foldl (fun t e => Table.insert e.1 e.2 t) t) else none)
    (budget : Nat) :
    mergeStruct budget [] (encodeEntries es) = if structDepth s ≤ budget then some s else none := by
  cases budget with
  | zero => rw [mergeStruct, structDepth, if_neg (Nat.not_succ_le_zero _)]
  | succ budget =>
    have table : gs.foldl (fun t e => Table.insert e.1 e.2 t) [] = s := Table.ofList_of_perm order ordered
    rw [mergeStruct_written (written_entries fits), read, entriesDepth_perm order, table]
    simp only [structDepth, Nat.add_le_add_iff_right]

theorem mergeList_of_fields {ws vs : List Value} (fits : Fits (encodeItems ws))
    (read : ∀ budget l, (ws.map listItem).foldlM (listStep budget) l =
      if itemsDepth vs ≤ budget then some (l ++ vs) else none) (budget : Nat) :
    mergeList budget [] (encodeItems ws) = if itemsDepth vs + 1 ≤ budget then some vs else none := by
  cases budget with
  | zero => rw [mergeList, if_neg (Nat.not_succ_le_zero _)]
  | succ budget =>
    rw [mergeList_written (written_items fits), read]
    simp only [Nat.add_le_add_iff_right, List.nil_append]

theorem textPayload?_utf8 (s : String) : textPayload? (.bytes (Text.utf8 s)) = some s :=
  Text.ofUtf8?_utf8 s

theorem foldlM_name (budget : Nat) (k : String) (v : Value) :
    (presentItem 1 (Text.utf8 k)).foldlM (entryStep budget) ("", v) = some (k, v) := by
  refine foldlM_text (fun k => (k, v)) (fun k => ?_) k
  simp only [entryStep, textPayload?_utf8, Option.map_some]

/-- The fields of an entry: its name, then its value. -/
theorem mergeEntry_of_value {k : String} {w v : Value} (fits : Fits (encodeEntry (k, w)))
    (arranged : Arranged w v)
    (read : w ≠ .unset → ∀ budget, mergeValue budget .unset (encodeValue w) =
      if valueDepth v ≤ budget then some v else none) (budget : Nat) :
    mergeEntry budget ("", .unset) (encodeEntry (k, w)) =
      if entryDepth (k, v) ≤ budget then some (k, v) else none := by
  by_cases kind : v = .unset
  · subst kind
    obtain rfl := arranged_unset arranged
    cases budget with
    | zero => rfl
    | succ budget =>
      rw [mergeEntry_written (written_entryItems fits)]
      exact foldlM_name budget k .unset
  · have written : w ≠ .unset := by
      rintro rfl
      exact kind arranged
    rw [entryDepth_of_ne kind]
    cases budget with
    | zero => rfl
    | succ budget =>
      rw [mergeEntry_written (written_entryItems fits), entryItems_of_ne written,
        foldlM_append_of (foldlM_name ..), foldlM_one]
      change (mergeValue budget .unset (encodeValue w)).map (fun v => (k, v)) = _
      rw [read written, map_guarded]
      simp only [Nat.add_le_add_iff_right]

mutual

/-- A value is read as it was before its entries were put in some order, exactly if it nests no deeper than
the reader may. -/
theorem mergeValue_encode (w : Value) {v : Value} (arranged : Arranged w v) (sound : Sound v)
    (fits : Fits (encodeValue w)) (budget : Nat) :
    mergeValue budget .unset (encodeValue w) = if valueDepth v ≤ budget then some v else none := by
  refine mergeValue_of_fields fits (fun budget => ?_) budget
  have flat : 1 ≤ budget + 1 := Nat.le_add_left ..
  cases w with
  | unset =>
    cases arranged
    exact (if_pos flat).symm
  | null n =>
    cases arranged
    rw [valueItem, foldlM_one, valueDepth, if_pos flat]
    simp only [valueStep, int32OfWord_wordOfInt sound]
  | number x =>
    cases arranged
    rw [valueItem, foldlM_one, valueDepth, if_pos flat]
    simp only [valueStep, UInt64.ofNat_toNat]
  | string s =>
    cases arranged
    rw [valueItem, foldlM_one, valueDepth, if_pos flat]
    simp only [valueStep, textPayload?_utf8, Option.map_some]
  | bool b =>
    cases arranged
    rw [valueItem, foldlM_one, valueDepth, if_pos flat]
    cases b <;> rfl
  | struct es =>
    obtain ⟨gs, fs, rfl, entries, order⟩ := arranged
    have read := mergeStruct_of_fields fits.content order sound.1
      fun budget t => mergeEntries_encode es entries (soundEntries_perm order sound.2) fits.content budget t
    rw [valueItem, foldlM_one]
    change (mergeStruct budget [] (encodeEntries es)).map Value.struct = _
    rw [read, map_guarded]
    exact if_congr Nat.succ_le_succ_iff.symm rfl rfl
  | list ws =>
    obtain ⟨vs, rfl, items⟩ := arranged
    have read := mergeList_of_fields fits.content
      fun budget l => mergeItems_encode ws items sound fits.content budget l
    rw [valueItem, foldlM_one]
    change (mergeList budget [] (encodeItems ws)).map Value.list = _
    rw [read, map_guarded]
    exact if_congr Nat.succ_le_succ_iff.symm rfl rfl
termination_by structural w

theorem mergeItems_encode (ws : List Value) {vs : List Value} (arranged : ArrangedItems ws vs)
    (sound : SoundItems vs) (fits : Fits (encodeItems ws)) (budget : Nat) (l : List Value) :
    (ws.map listItem).foldlM (listStep budget) l =
      if itemsDepth vs ≤ budget then some (l ++ vs) else none := by
  cases ws with
  | nil =>
    cases arranged
    simp [itemsDepth]
  | cons w rest =>
    obtain ⟨v, vs, rfl, first, later⟩ := arranged
    have one := mergeValue_encode w first sound.1 fits.left.content budget
    have more := mergeItems_encode rest later sound.2 fits.right budget (l ++ [v])
    have added : listStep budget l (listItem w) =
        if valueDepth v ≤ budget then some (l ++ [v]) else none := by
      change (mergeValue budget .unset (encodeValue w)).map (fun v => l ++ [v]) = _
      rw [one, map_guarded]
    rw [List.map_cons, foldlM_cons_guarded added more, List.append_assoc]
    simp only [itemsDepth, max_le_iff, List.singleton_append]
termination_by structural ws

theorem mergeEntries_encode (es : List (String × Value)) {gs : List (String × Value)}
    (arranged : ArrangedEntries es gs) (sound : SoundEntries gs) (fits : Fits (encodeEntries es))
    (budget : Nat) (t : Struct) :
    (es.map entryItem).foldlM (structStep budget) t =
      if entriesDepth gs ≤ budget then some (gs.foldl (fun t e => Table.insert e.1 e.2 t) t) else none := by
  cases es with
  | nil =>
    cases arranged
    simp [entriesDepth]
  | cons e rest =>
    obtain ⟨g, gs, rfl, first, later⟩ := arranged
    have one := mergeEntry_encode e first sound.1 fits.left.content budget
    have more := mergeEntries_encode rest later sound.2 fits.right budget (Table.insert g.1 g.2 t)
    have inserted : structStep budget t (entryItem e) =
        if entryDepth g ≤ budget then some (Table.insert g.1 g.2 t) else none := by
      change (mergeEntry budget ("", .unset) (encodeEntry e)).map (fun kv => Table.insert kv.1 kv.2 t) = _
      rw [one, map_guarded]
    rw [List.map_cons, foldlM_cons_guarded inserted more]
    simp only [entriesDepth, max_le_iff, List.foldl_cons]
termination_by structural es

theorem mergeEntry_encode (e : String × Value) {g : String × Value} (arranged : ArrangedEntry e g)
    (sound : SoundEntry g) (fits : Fits (encodeEntry e)) (budget : Nat) :
    mergeEntry budget ("", .unset) (encodeEntry e) = if entryDepth g ≤ budget then some g else none := by
  obtain ⟨k, w⟩ := e
  obtain ⟨k', v⟩ := g
  obtain ⟨rfl, value⟩ := arranged
  refine mergeEntry_of_value fits value (fun written => ?_) budget
  rw [encodeEntry_of_ne written] at fits
  exact mergeValue_encode w value sound fits.right.content
termination_by structural e

end

theorem mergeStruct_encode {es : List (String × Value)} {s : Struct} (arranged : ArrangedStruct es s)
    (sound : SoundStruct s) (fits : Fits (encodeStruct es)) (budget : Nat) :
    mergeStruct budget [] (encodeStruct es) = if structDepth s ≤ budget then some s else none := by
  obtain ⟨gs, entries, order⟩ := arranged
  exact mergeStruct_of_fields fits order sound.ordered
    (mergeEntries_encode es entries (soundEntries_perm order sound.entries) fits) budget

/-! ### Whatever is read is sound -/

theorem foldlM_keeps {α β : Type} {f : β → α → Option β} {P : β → Prop}
    (step : ∀ b a b', P b → f b a = some b' → P b') {l : List α} {b b' : β} (start : P b)
    (read : l.foldlM f b = some b') : P b' := by
  induction l generalizing b with
  | nil => exact Option.some.inj read ▸ start
  | cons a rest ih =>
    rw [List.foldlM_cons] at read
    obtain ⟨next, first, later⟩ := Option.bind_eq_some_iff.mp read
    exact ih (step b a next start first) later

theorem skipUnknown_eq_some {α : Type} {budget : Nat} {a b : α} (read : skipUnknown budget a = some b) :
    b = a := by
  unfold skipUnknown at read
  split at read
  · cases read
  · exact (Option.some.inj read).symm

theorem isSigned32_int32OfWord (n : Nat) : Word.isSigned32 (int32OfWord n) = true := by
  have low : -(Word.size32 : Int) / 2 ≤ int32OfWord n := Int.le_bmod (by decide)
  have high : int32OfWord n < ((Word.size32 : Int) + 1) / 2 := Int.bmod_lt (by decide)
  simp only [Word.size32] at low high
  simp only [Word.isSigned32, Bool.and_eq_true, decide_eq_true_eq]
  omega

theorem SoundStruct.insert {s : Struct} (sound : SoundStruct s) {e : String × Value} (value : Sound e.2) :
    SoundStruct (Table.insert e.1 e.2 s) where
  ordered := sound.ordered.insert e.1 e.2
  entries := soundEntries_iff.mpr fun x member => by
    rcases Table.mem_insert member with rfl | old
    · exact value
    · exact soundEntries_iff.mp sound.entries x old

theorem soundItems_append {l : List Value} (sound : SoundItems l) {v : Value} (last : Sound v) :
    SoundItems (l ++ [v]) := by
  induction l with
  | nil => exact ⟨last, trivial⟩
  | cons x rest ih => exact ⟨sound.1, ih sound.2⟩

theorem soundStruct_structOf {v : Value} (sound : Sound v) : SoundStruct (structOf v) := by
  cases v with
  | struct fields => exact ⟨sound.1, sound.2⟩
  | unset | null | number | string | bool | list => exact ⟨.nil, trivial⟩

theorem soundItems_listOf {v : Value} (sound : Sound v) : SoundItems (listOf v) := by
  cases v with
  | list items => exact sound
  | unset | null | number | string | bool | struct => trivial

/-- Each of the four readers keeps what it merges into sound; the induction is on the budget. -/
theorem merge_sound (budget : Nat) :
    (∀ s b s', SoundStruct s → mergeStruct budget s b = some s' → SoundStruct s') ∧
    (∀ kv b kv', Sound kv.2 → mergeEntry budget kv b = some kv' → Sound kv'.2) ∧
    (∀ v b v', Sound v → mergeValue budget v b = some v' → Sound v') ∧
    (∀ l b l', SoundItems l → mergeList budget l b = some l' → SoundItems l') := by
  induction budget with
  | zero => refine ⟨?_, ?_, ?_, ?_⟩ <;> intro _ _ _ _ read <;> cases read
  | succ budget ih =>
    obtain ⟨structs, entries, values, lists⟩ := ih
    refine ⟨?_, ?_, ?_, ?_⟩
    · intro s b s' sound read
      obtain ⟨items, _, fold⟩ := Option.bind_eq_some_iff.mp read
      refine foldlM_keeps (fun t item t' kept one => ?_) sound fold
      split at one
      · obtain ⟨kv, entry, rfl⟩ := Option.map_eq_some_iff.mp one
        exact kept.insert (entries ("", .unset) _ kv trivial entry)
      · exact skipUnknown_eq_some one ▸ kept
    · intro kv b kv' sound read
      obtain ⟨items, _, fold⟩ := Option.bind_eq_some_iff.mp read
      refine foldlM_keeps (P := fun kv => Sound kv.2) (fun kv item kv' kept one => ?_) sound fold
      split at one
      · obtain ⟨k, _, rfl⟩ := Option.map_eq_some_iff.mp one
        exact kept
      · obtain ⟨v, value, rfl⟩ := Option.map_eq_some_iff.mp one
        exact values _ _ v kept value
      · cases one
      · exact skipUnknown_eq_some one ▸ kept
    · intro v b v' sound read
      obtain ⟨items, _, fold⟩ := Option.bind_eq_some_iff.mp read
      refine foldlM_keeps (fun v item v' kept one => ?_) sound fold
      split at one
      · exact Option.some.inj one ▸ isSigned32_int32OfWord _
      · exact Option.some.inj one ▸ trivial
      · obtain ⟨s, _, rfl⟩ := Option.map_eq_some_iff.mp one
        trivial
      · exact Option.some.inj one ▸ trivial
      · obtain ⟨s, inner, rfl⟩ := Option.map_eq_some_iff.mp one
        have merged := structs _ _ s (soundStruct_structOf kept) inner
        exact ⟨merged.ordered, merged.entries⟩
      · obtain ⟨l, inner, rfl⟩ := Option.map_eq_some_iff.mp one
        exact lists _ _ l (soundItems_listOf kept) inner
      · split at one
        · cases one
        · exact skipUnknown_eq_some one ▸ kept
      · cases one
    · intro l b l' sound read
      obtain ⟨items, _, fold⟩ := Option.bind_eq_some_iff.mp read
      refine foldlM_keeps (fun l item l' kept one => ?_) sound fold
      split at one
      · obtain ⟨v, value, rfl⟩ := Option.map_eq_some_iff.mp one
        exact soundItems_append kept (values .unset _ v trivial value)
      · cases one
      · exact skipUnknown_eq_some one ▸ kept

theorem mergeStruct_sound {budget : Nat} {b : Bytes} {s : Struct} (read : mergeStruct budget [] b = some s) :
    SoundStruct s :=
  (merge_sound budget).1 [] b s ⟨.nil, trivial⟩ read

end Courier.Wire
