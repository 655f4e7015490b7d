import Courier.Table
import Mathlib.Tactic.Tauto
/-!
Tables read back.  What was put under a key is found there and nothing else moves, in whatever order the
entries stand.  A list whose keys differ has the same entries as the table that is made of it.
-/
namespace Courier.Table

variable {α : Type}

theorem get?_insert_self (key : String) (value : α) (t : Table α) :
    get? key (insert key value t) = some value := by
  induction t with
  | nil => simp [insert, get?]
  | cons e rest ih =>
    rw [insert]
    split
    · simp [get?]
    · next other =>
      split
      · simp [get?]
      · rw [get?, if_neg (Ne.symm other)]
        exact ih

theorem get?_insert_of_ne {key other : String} (h : other ≠ key) (value : α) (t : Table α) :
    get? other (insert key value t) = get? other t := by
  have skip : ∀ rest : Table α, get? other ((key, value) :: rest) = get? other rest := by
    intro rest
    rw [get?, if_neg (Ne.symm h)]
  induction t with
  | nil => exact skip []
  | cons e rest ih =>
    obtain ⟨k, v⟩ := e
    rw [insert]
    split
    · next same =>
      subst same
      rw [skip, get?, if_neg (Ne.symm h)]
    · split
      · exact skip _
      · rw [get?, get?, ih]

theorem get?_erase_self (key : String) (t : Table α) : get? key (erase key t) = none := by
  induction t with
  | nil => rfl
  | cons e rest ih =>
    obtain ⟨k, v⟩ := e
    by_cases same : k = key
    · rwa [erase, List.filter_cons_of_neg (by simp [same])]
    · rw [erase, List.filter_cons_of_pos (by simp [same]), get?, if_neg same]
      exact ih

theorem get?_erase_of_ne {key other : String} (h : other ≠ key) (t : Table α) :
    get? other (erase key t) = get? other t := by
  induction t with
  | nil => rfl
  | cons e rest ih =>
    obtain ⟨k, v⟩ := e
    by_cases same : k = key
    · rw [erase, List.filter_cons_of_neg (by simp [same]), get?, if_neg fun also => h (also.symm.trans same)]
      exact ih
    · rw [erase, List.filter_cons_of_pos (by simp [same]), get?, get?]
      split
      · rfl
      · exact ih

/-- A key behind all others goes to the end. -/
theorem insert_last {key : String} {t : Table α} (behind : ∀ e ∈ t, e.1 < key) (value : α) :
    insert key value t = t ++ [(key, value)] := by
  induction t with
  | nil => rfl
  | cons e rest ih =>
    have before := behind e (List.mem_cons_self ..)
    have different : key ≠ e.1 := by
      rintro rfl
      exact String.lt_irrefl _ before
    have notBefore : ¬ key < e.1 := fun after => String.lt_irrefl _ (String.lt_trans before after)
    rw [insert, if_neg different, if_neg notBefore,
      ih fun x member => behind x (List.mem_cons_of_mem _ member), List.cons_append]

/-- A key that is new is added, wherever it goes. -/
theorem insert_perm {key : String} {t : Table α} (fresh : ∀ e ∈ t, e.1 ≠ key) (value : α) :
    (insert key value t).Perm ((key, value) :: t) := by
  induction t with
  | nil => exact .refl _
  | cons e rest ih =>
    have different : key ≠ e.1 := Ne.symm (fresh e (List.mem_cons_self ..))
    rw [insert, if_neg different]
    split
    · exact .refl _
    · exact ((ih fun x member => fresh x (List.mem_cons_of_mem _ member)).cons e).trans (.swap ..)

/-- Entries with different keys all get into their table. -/
theorem ofList_perm {entries : List (String × α)} (distinct : (entries.map Prod.fst).Nodup) :
    (ofList entries).Perm entries := by
  have filled : ∀ (rest : List (String × α)) (t : Table α), ((t ++ rest).map Prod.fst).Nodup →
      (rest.foldl (fun t e => insert e.1 e.2 t) t).Perm (t ++ rest) := by
    intro rest
    induction rest with
    | nil =>
      intro t _
      rw [List.append_nil]
      exact .refl _
    | cons e rest ih =>
      intro t nodup
      have fresh : ∀ x ∈ t, x.1 ≠ e.1 := by
        rw [List.map_append, List.nodup_append] at nodup
        exact fun x member =>
          nodup.2.2 x.1 (List.mem_map_of_mem member) e.1 (List.mem_map_of_mem (List.mem_cons_self ..))
      have inserted : (insert e.1 e.2 t ++ rest).Perm (t ++ e :: rest) :=
        ((insert_perm fresh e.2).append_right rest).trans List.perm_middle.symm
      rw [List.foldl_cons]
      exact (ih _ ((inserted.map Prod.fst).nodup_iff.mpr nodup)).trans inserted
  exact filled entries [] distinct

/-- In a table every key is behind those of the entries before it. -/
theorem Ordered.behind {front back : Table α} {e : String × α} (h : Ordered (front ++ e :: back)) :
    ∀ x ∈ front, x.1 < e.1 := by
  intro x member
  rw [Ordered, keys, List.map_append, List.map_cons, List.pairwise_append] at h
  exact h.2.2 x.1 (List.mem_map_of_mem member) e.1 (List.mem_cons_self ..)

theorem mem_of_get? {key : String} {value : α} {t : Table α} (found : get? key t = some value) :
    (key, value) ∈ t := by
  induction t with
  | nil => cases found
  | cons e rest ih =>
    obtain ⟨k, v⟩ := e
    rw [get?] at found
    split at found
    · next same =>
      obtain rfl := Option.some.inj found
      exact same ▸ List.mem_cons_self ..
    · exact List.mem_cons_of_mem _ (ih found)

/-- In a table every entry is the one that its key finds. -/
theorem Ordered.get?_of_mem {t : Table α} (ordered : Ordered t) {e : String × α} (member : e ∈ t) :
    get? e.1 t = some e.2 := by
  induction t with
  | nil => cases member
  | cons x rest ih =>
    rw [Ordered, keys, List.map_cons, List.pairwise_cons] at ordered
    rw [get?]
    rcases List.mem_cons.mp member with rfl | later
    · exact if_pos rfl
    · have before := ordered.1 e.1 (List.mem_map_of_mem later)
      rw [if_neg (String.ne_of_lt before)]
      exact ih ordered.2 later

theorem mem_keys {key : String} {t : Table α} : key ∈ keys t ↔ ∃ value, get? key t = some value := by
  constructor
  · intro member
    induction t with
    | nil => cases member
    | cons e rest ih =>
      obtain ⟨k, v⟩ := e
      rw [get?]
      split
      · exact ⟨v, rfl⟩
      · next other =>
        rcases List.mem_cons.mp member with same | later
        · exact absurd same.symm other
        · exact ih later
  · rintro ⟨value, found⟩
    exact List.mem_map_of_mem (f := Prod.fst) (mem_of_get? found)

theorem mem_keys_insert {key other : String} {value : α} {t : Table α} :
    other ∈ keys (insert key value t) ↔ other = key ∨ other ∈ keys t := by
  rw [mem_keys, mem_keys]
  by_cases same : other = key
  · subst same
    simp [get?_insert_self]
  · simp [get?_insert_of_ne same, same]

/-- A set of names holds the names that it is made of. -/
theorem mem_nameSet {name : String} {names : List String} : name ∈ nameSet names ↔ name ∈ names := by
  have fold : ∀ (names : List String) (t : Table Unit),
      name ∈ keys ((names.map fun n => (n, ())).foldl (fun t e => insert e.1 e.2 t) t) ↔
        name ∈ names ∨ name ∈ keys t := by
    intro names
    induction names with
    | nil => simp
    | cons n rest ih =>
      intro t
      rw [List.map_cons, List.foldl_cons, ih, mem_keys_insert, List.mem_cons]
      tauto
  rw [nameSet, ofList, fold]
  simp [keys]

theorem mem_insert {key : String} {value : α} {t : Table α} {e : String × α}
    (member : e ∈ insert key value t) : e = (key, value) ∨ e ∈ t := by
  induction t with
  | nil => exact .inl (List.mem_singleton.mp member)
  | cons x rest ih =>
    rw [insert] at member
    split at member
    · rcases List.mem_cons.mp member with rfl | later
      · exact .inl rfl
      · exact .inr (List.mem_cons_of_mem _ later)
    · split at member
      · rcases List.mem_cons.mp member with rfl | old
        · exact .inl rfl
        · exact .inr old
      · rcases List.mem_cons.mp member with rfl | later
        · exact .inr (List.mem_cons_self ..)
        · exact (ih later).imp_right (List.mem_cons_of_mem _)

theorem Ordered.insert {t : Table α} (ordered : Ordered t) (key : String) (value : α) :
    Ordered (insert key value t) := by
  unfold Ordered keys at ordered ⊢
  induction t with
  | nil => simp [Table.insert]
  | cons x rest ih =>
    obtain ⟨k, v⟩ := x
    rw [List.map_cons, List.pairwise_cons] at ordered
    rw [Table.insert]
    split
    · next same =>
      subst same
      rw [List.map_cons, List.pairwise_cons]
      exact ordered
    · next different =>
      split
      · next before =>
        rw [List.map_cons, List.pairwise_cons, List.map_cons, List.pairwise_cons]
        refine ⟨?_, ordered⟩
        intro other member
        rcases List.mem_cons.mp member with rfl | later
        · exact before
        · exact String.lt_trans before (ordered.1 other later)
      · next notBefore =>
        rw [List.map_cons, List.pairwise_cons]
        refine ⟨?_, ih ordered.2⟩
        intro other member
        obtain ⟨e, inserted, rfl⟩ := List.mem_map.mp member
        rcases mem_insert inserted with rfl | old
        · exact Decidable.byContradiction fun after =>
            different (String.le_antisymm (String.not_lt.mp after) (String.not_lt.mp notBefore))
        · exact ordered.1 e.1 (List.mem_map_of_mem old)

theorem Ordered.ofList (entries : List (String × α)) : Ordered (ofList entries) := by
  have filled : ∀ (rest : List (String × α)) {t : Table α}, Ordered t →
      Ordered (rest.foldl (fun t e => Table.insert e.1 e.2 t) t) := by
    intro rest
    induction rest with
    | nil => exact fun ordered => ordered
    | cons e rest ih => exact fun ordered => ih (ordered.insert e.1 e.2)
  exact filled entries .nil

/-- The entries of a table, in whatever order, make the table again. -/
theorem ofList_of_perm {entries : List (String × α)} {t : Table α} (order : entries.Perm t)
    (ordered : Ordered t) : Table.ofList entries = t := by
  have distinct : (entries.map Prod.fst).Nodup :=
    (order.map Prod.fst).nodup_iff.mpr (ordered.imp String.ne_of_lt)
  have same := (ofList_perm distinct).trans order
  have sorted := List.pairwise_map.mp (Ordered.ofList entries)
  exact same.eq_of_pairwise (fun a b _ _ before after => absurd (String.lt_trans before after)
    (String.lt_irrefl _)) sorted (List.pairwise_map.mp ordered)

/-- Dropping entries by their values drops a key exactly if its value goes. -/
theorem get?_filter {t : Table α} (ordered : Ordered t) (keep : α → Bool) (key : String) :
    get? key (t.filter fun e => keep e.2) = (get? key t).filter keep := by
  induction t with
  | nil => rfl
  | cons e rest ih =>
    obtain ⟨k, v⟩ := e
    rw [Ordered, keys, List.map_cons, List.pairwise_cons] at ordered
    have later := ih ordered.2
    cases kept : keep v with
    | true =>
      rw [List.filter_cons_of_pos (by simpa using kept), get?, get?]
      split
      · rw [Option.filter_some, if_pos kept]
      · exact later
    | false =>
      rw [List.filter_cons_of_neg (by simp [kept]), get?, later]
      split
      · next same =>
        -- no later entry has the key
        have absent : get? key rest = none := by
          cases found : get? key rest with
          | none => rfl
          | some other =>
            have member := ordered.1 key (mem_keys.mpr ⟨other, found⟩)
            exact absurd (same ▸ member) (String.lt_irrefl key)
        rw [absent, Option.filter_some, if_neg (by simp [kept]), Option.filter_none]
      · rfl

theorem get?_mapValues {β : Type} (f : α → β) (key : String) (t : Table α) :
    get? key (mapValues f t) = (get? key t).map f := by
  induction t with
  | nil => rfl
  | cons e rest ih =>
    rw [mapValues, List.map_cons, get?, get?]
    split
    · rfl
    · exact ih

theorem mapValues_mapValues {β γ : Type} (g : β → γ) (f : α → β) (t : Table α) :
    mapValues g (mapValues f t) = mapValues (fun a => g (f a)) t := by
  rw [mapValues, mapValues, List.map_map]
  rfl

/-- Mapping changes nothing where each value stays. -/
theorem mapValues_of_kept {f : α → α} {t : Table α} (kept : ∀ e ∈ t, f e.2 = e.2) : mapValues f t = t := by
  have each : ∀ e ∈ t, (e.1, f e.2) = e := fun e member => Prod.ext rfl (kept e member)
  exact (List.map_congr_left each).trans (List.map_id t)

@[simp] theorem keys_mapValues {β : Type} (f : α → β) (t : Table α) : keys (mapValues f t) = keys t := by
  simp [keys, mapValues]

end Courier.Table
