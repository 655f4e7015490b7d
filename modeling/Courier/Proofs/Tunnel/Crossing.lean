import Courier.Outbound.Call
import Courier.Proofs.Context
import Courier.Proofs.Tunnel.Intake
/-!
Body fields and headers from one side of the tunnel to the other.  Fields are carried as JSON text, which
brings plain values back.  Of the headers a message carries those that are visible text, in no particular
order, and each is put among the headers of the request that becomes of it.  If every name stands once and
in lower case, then a name that is kept has the same text on both sides.
-/
namespace Courier.Tunnel

open Http (Headers)
open Http.Headers (Canonical get?)

theorem decodeField_text {j : Json} (plain : Json.Plain Json.IsInt Json.nestingLimit j) :
    decodeField j.text = j := by
  have read : Json.parseText? j.text = some j := Json.parse?_bytes plain
  rw [decodeField, read, Option.getD_some]

theorem decodeFields_encodeFields {payload : Fields}
    (plain : ∀ f ∈ payload, Json.Plain Json.IsInt Json.nestingLimit f.2) :
    decodeFields (encodeFields payload) = payload := by
  rw [decodeFields, encodeFields, Table.mapValues_mapValues]
  exact Table.mapValues_of_kept fun f member => decodeField_text (plain f member)

/-- The id of a message is never empty, so the id of the request is the call's own. -/
theorem message_knownId (c : Call) (carried : Table String) :
    { c.message with headers := carried : Message }.knownId = c.context.correlation := by
  have some_id : ¬ (c.context.correlation == "") = true := by
    simpa using c.context.correlation_ne_empty
  exact if_neg some_id

theorem wireNames_sublist (h : Headers) :
    ((h.filterMap fun e => (Http.visible? e.2).map fun v => (e.1, v)).map Prod.fst).Sublist
      (h.map Prod.fst) := by
  induction h with
  | nil => exact .slnil
  | cons e rest ih =>
    cases shown : Http.visible? e.2 with
    | none =>
      rw [List.filterMap_cons_none (by rw [shown]; rfl), List.map_cons]
      exact ih.cons _
    | some v =>
      rw [List.filterMap_cons_some (by rw [shown]; rfl), List.map_cons, List.map_cons]
      exact ih.cons_cons _

/-- The entries that a message carries, whatever their order. -/
theorem wireHeaders_perm {h : Headers} (canonical : Canonical h) :
    (Call.wireHeaders h).Perm (h.filterMap fun e => (Http.visible? e.2).map fun v => (e.1, v)) :=
  Table.ofList_perm (canonical.distinct.sublist (wireNames_sublist h))

section

variable {h : Headers} {carried : List (String × String)} (canonical : Canonical h)
  (same : carried.Perm (Call.wireHeaders h))
include canonical same

theorem mem_carried {name text : String} :
    (name, text) ∈ carried ↔ ∃ v, (name, v) ∈ h ∧ Http.visible? v = some text := by
  rw [(same.trans (wireHeaders_perm canonical)).mem_iff, List.mem_filterMap]
  constructor
  · rintro ⟨⟨n, v⟩, member, shown⟩
    obtain ⟨t, visible, pair⟩ := Option.map_eq_some_iff.mp shown
    cases pair
    exact ⟨v, member, visible⟩
  · rintro ⟨v, member, visible⟩
    exact ⟨(name, v), member, by rw [visible]; rfl⟩

/-- Names that are carried are in lower case, so a spelling of `key` is `key`. -/
theorem carried_lowered {e : String × String} (member : e ∈ carried) : Text.lower e.1 = e.1 := by
  obtain ⟨v, sent, _⟩ := (mem_carried canonical same).mp member
  exact canonical.lowered (e.1, v) sent

theorem spelledOnce_carried (key : String) : SpelledOnce key carried := by
  have distinct : (carried.map Prod.fst).Nodup := by
    rw [((same.trans (wireHeaders_perm canonical)).map Prod.fst).nodup_iff]
    exact canonical.distinct.sublist (wireNames_sublist h)
  have spelled : ∀ e ∈ carried.filter fun e => Text.lower e.1 == key, e.1 = key := by
    intro e member
    have member := List.mem_filter.mp member
    rw [← carried_lowered canonical same member.1]
    simpa using member.2
  have nodup := distinct.sublist (List.filter_sublist (p := fun e => Text.lower e.1 == key).map Prod.fst)
  unfold SpelledOnce
  cases list : carried.filter fun e => Text.lower e.1 == key with
  | nil => exact Nat.zero_le _
  | cons x rest =>
    cases rest with
    | nil => exact Nat.le_refl _
    | cons y rest =>
      rw [list] at nodup spelled
      have both : x.1 = y.1 := (spelled x (by simp)).trans (spelled y (by simp)).symm
      rw [List.map_cons, List.map_cons, both] at nodup
      exact absurd (List.mem_cons_self ..) (List.nodup_cons.mp nodup).1

/-- A name without visible text is not carried. -/
theorem carried_clear {key : String} (unseen : h.text? key = none) :
    ∀ e ∈ carried, Text.lower e.1 ≠ key := by
  intro e member spelled
  obtain ⟨v, sent, visible⟩ := (mem_carried canonical same).mp member
  rw [carried_lowered canonical same member] at spelled
  rw [← spelled, Headers.text?, canonical.get?_of_mem sent, Option.bind_some, visible] at unseen
  cases unseen

/-- A name that is kept says the same on both sides. -/
theorem text?_carried {key : String} (kept : Carried key) :
    Headers.text? key (carried.foldl addHeader []) = h.text? key := by
  have once := spelledOnce_carried canonical same key
  unfold Headers.text?
  rw [get?_foldl_addHeader kept once]
  cases shown : h.text? key with
  | some text =>
    obtain ⟨v, present, visible⟩ := Option.bind_eq_some_iff.mp shown
    have carriedToo := (mem_carried canonical same).mpr ⟨v, Headers.mem_of_get? present, visible⟩
    have lower : Text.lower key = key := canonical.lowered (key, v) (Headers.mem_of_get? present)
    obtain ⟨all, rfl⟩ := Http.visible?_iff.mp visible
    rw [once.value carriedToo lower, Option.filter_some, if_pos (Http.isLegalValue_of_visible all), present]
  | none =>
    have absent : spelledValue? key carried = none := by
      rw [spelledValue?, List.find?_eq_none.mpr (by simpa using carried_clear canonical same shown)]
      rfl
    rw [absent]
    exact shown.symm

end

/-- A header that comes through: a name that is kept, with a visible value. -/
structure Crosses (e : String × Bytes) : Prop where
  named : Carried e.1
  visible : e.2.all Http.isVisibleByte = true

/-- If the headers of a name come through, the name has the same value on both sides. -/
theorem get?_carried {h : Headers} {carried : List (String × String)} (canonical : Canonical h)
    (same : carried.Perm (Call.wireHeaders h)) {key : String} (crosses : ∀ v, (key, v) ∈ h → Crosses (key, v)) :
    get? key (carried.foldl addHeader []) = get? key h := by
  cases present : get? key h with
  | some v =>
    obtain ⟨named, visible⟩ := crosses v (Http.Headers.mem_of_get? present)
    have text : h.text? key = Http.visible? v := by
      rw [Headers.text?, present, Option.bind_some]
    have shown : Http.visible? v = some (Text.ofAscii v) := by rw [Http.visible?, if_pos visible]
    have there := (text?_carried canonical same named).trans (text.trans shown)
    obtain ⟨w, found, shown'⟩ := Option.bind_eq_some_iff.mp there
    rw [found, (Http.visible?_iff.mp shown).2, (Http.visible?_iff.mp shown').2]
  | none =>
    have unseen : h.text? key = none := by rw [Headers.text?, present, Option.bind_none]
    exact get?_foldl_addHeader_of_clear (carried_clear canonical same unseen) []

end Courier.Tunnel
