import Courier.Tunnel.Execution
import Courier.Proofs.Service.Layers
/-!
Headers that a message of the tunnel brings along.  Their names may be spelled in any letter case, and a
name is looked for without regard to it.  What the message says of the calling service beside its headers
has no part in the request that becomes of it.
-/
namespace Courier.Tunnel

open Http (Headers)
open Http.Headers (Canonical get?)

section

variable {key : String}

theorem get?_addHeader_of_ne {e : String × String} (other : Text.lower e.1 ≠ key) (h : Http.Headers) :
    get? key (addHeader h e) = get? key h := by
  unfold addHeader
  split
  · rfl
  · cases named : Http.headerName? e.1 with
    | none => rfl
    | some name =>
      obtain ⟨rfl, _⟩ := Http.headerName?_stored named
      exact Http.Headers.get?_tryInsertText_of_ne (Ne.symm other) e.2 h

theorem get?_foldl_addHeader_of_clear {entries : List (String × String)}
    (clear : ∀ e ∈ entries, Text.lower e.1 ≠ key) (h : Http.Headers) :
    get? key (entries.foldl addHeader h) = get? key h := by
  induction entries generalizing h with
  | nil => rfl
  | cons e rest ih =>
    rw [List.foldl_cons, ih (fun x member => clear x (List.mem_cons_of_mem _ member)),
      get?_addHeader_of_ne (clear e (List.mem_cons_self ..))]

/-- A name that is replaced is not taken from a message in any spelling. -/
theorem get?_foldl_addHeader_of_replaced (replaced : replacedHeaders.contains key = true)
    (entries : List (String × String)) (h : Http.Headers) :
    get? key (entries.foldl addHeader h) = get? key h := by
  induction entries generalizing h with
  | nil => rfl
  | cons e rest ih =>
    rw [List.foldl_cons, ih]
    by_cases spelled : Text.lower e.1 = key
    · rw [addHeader, spelled, if_pos replaced]
    · exact get?_addHeader_of_ne spelled h

theorem addHeader_canonical {h : Headers} (canonical : Canonical h) (e : String × String) :
    Canonical (addHeader h e) := by
  unfold addHeader
  split
  · exact canonical
  · split
    · next name stored =>
      obtain ⟨rfl, _⟩ := Http.headerName?_stored stored
      exact canonical.tryInsertText (Text.lower_lower e.1) _
    · exact canonical

/-- A name that is kept and that is a short token in lower case. -/
structure Carried (key : String) : Prop where
  kept : replacedHeaders.contains key = false
  token : Http.isToken key = true
  short : key.toList.length ≤ Http.nameLimit

instance (key : String) : Decidable (Carried key) :=
  decidable_of_iff
    (replacedHeaders.contains key = false ∧ Http.isToken key = true ∧ key.toList.length ≤ Http.nameLimit)
    ⟨fun ⟨kept, token, short⟩ => ⟨kept, token, short⟩, fun ⟨kept, token, short⟩ => ⟨kept, token, short⟩⟩

theorem addHeader_of_lower {e : String × String} (carried : Carried key) (spelled : Text.lower e.1 = key)
    (h : Http.Headers) : addHeader h e = h.tryInsertText key e.2 := by
  unfold addHeader
  rw [spelled, carried.kept, Http.headerName?_of_lower spelled carried.token carried.short]
  rfl

/-- The first value under a name in any spelling. -/
def spelledValue? (key : String) (entries : List (String × String)) : Option Bytes :=
  (entries.find? fun e => Text.lower e.1 == key).map fun e => Text.utf8 e.2

/-- At most one entry spells the name. -/
def SpelledOnce (key : String) (entries : List (String × String)) : Prop :=
  (entries.filter fun e => Text.lower e.1 == key).length ≤ 1

theorem SpelledOnce.value {entries : List (String × String)} (once : SpelledOnce key entries)
    {e : String × String} (member : e ∈ entries) (spelled : Text.lower e.1 = key) :
    spelledValue? key entries = some (Text.utf8 e.2) := by
  unfold spelledValue?
  cases found : entries.find? fun e => Text.lower e.1 == key with
  | none =>
    have clear := List.find?_eq_none.mp found e member
    exact absurd (by simpa using spelled) clear
  | some x =>
    have spelledToo : (Text.lower x.1 == key) = true := by simpa using List.find?_some found
    have among : x ∈ entries.filter fun e => Text.lower e.1 == key :=
      List.mem_filter.mpr ⟨List.mem_of_find?_eq_some found, spelledToo⟩
    have among' : e ∈ entries.filter fun e => Text.lower e.1 == key :=
      List.mem_filter.mpr ⟨member, by simpa using spelled⟩
    obtain ⟨only, list⟩ := List.length_eq_one_iff.mp
      (Nat.le_antisymm once (List.length_pos_of_mem among))
    rw [list, List.mem_singleton] at among among'
    rw [Option.map_some, among, among']

/-- A name that is spelled once at most is found with its value, if that is legal. -/
theorem get?_foldl_addHeader (carried : Carried key) {entries : List (String × String)}
    (once : SpelledOnce key entries) :
    get? key (entries.foldl addHeader []) = (spelledValue? key entries).filter Http.isLegalValue := by
  unfold spelledValue?
  cases found : entries.find? fun e => Text.lower e.1 == key with
  | none =>
    have clear : ∀ e ∈ entries, Text.lower e.1 ≠ key := by
      simpa using List.find?_eq_none.mp found
    rw [get?_foldl_addHeader_of_clear clear]
    rfl
  | some e =>
    obtain ⟨spelled, before, after, rfl, clear⟩ := List.find?_eq_some_iff_append.mp found
    have spelled : Text.lower e.1 = key := by simpa using spelled
    have clear_before : ∀ x ∈ before, Text.lower x.1 ≠ key := by simpa using clear
    have clear_after : ∀ x ∈ after, Text.lower x.1 ≠ key := by
      intro x member again
      have counted : 0 < (after.filter fun y => Text.lower y.1 == key).length :=
        List.length_pos_of_mem (List.mem_filter.mpr ⟨member, by simpa using again⟩)
      have twice := once
      unfold SpelledOnce at twice
      rw [List.filter_append, List.filter_cons_of_pos (by simpa using spelled), List.length_append,
        List.length_cons] at twice
      omega
    rw [List.foldl_append, List.foldl_cons, get?_foldl_addHeader_of_clear clear_after,
      addHeader_of_lower carried spelled]
    cases legal : Http.isLegalValue (Text.utf8 e.2) with
    | true =>
      rw [Http.Headers.get?_tryInsertText_self legal, Option.map_some, Option.filter_some, if_pos legal]
    | false =>
      rw [Http.Headers.tryInsertText_of_illegal legal, get?_foldl_addHeader_of_clear clear_before,
        Option.map_some, Option.filter_some, legal]
      rfl

end

theorem authorization_carried : Carried "authorization" := by decide

/-- The two headers that are made from the message itself have names of their own. -/
theorem get?_inboundHeaders_of_ne {name : String} (untyped : name ≠ "content-type")
    (unnamed : name ≠ Context.requestIdHeader) (boundary : String) (m : Message) :
    get? name (m.inboundHeaders boundary) = get? name (m.headers.foldl addHeader []) := by
  unfold Message.inboundHeaders
  dsimp only
  rw [Http.Headers.get?_tryInsertText_of_ne unnamed, Http.Headers.get?_tryInsertText_of_ne untyped]

theorem get?_inboundHeaders (boundary : String) (m : Message) :
    get? "authorization" (m.inboundHeaders boundary) =
      get? "authorization" (m.headers.foldl addHeader []) :=
  get?_inboundHeaders_of_ne (by decide) (by decide) boundary m

theorem inboundHeaders_canonical (boundary : String) (m : Message) :
    Canonical (m.inboundHeaders boundary) := by
  have kept : ∀ (entries : List (String × String)) {h : Headers}, Canonical h →
      Canonical (entries.foldl addHeader h) := by
    intro entries
    induction entries with
    | nil => exact fun canonical => canonical
    | cons e rest ih => exact fun canonical => ih (addHeader_canonical canonical e)
  exact ((kept m.headers .nil).tryInsertText (by decide) _).tryInsertText (by decide) _

/-- The request of a message that is taken in, with the address that was read from it. -/
def Message.requestTo (boundary : String) (peer : Option String) (m : Message) (uri : Http.Uri) : Inbound where
  method := Text.upper m.method
  uri := uri
  headers := m.inboundHeaders boundary
  body := m.content boundary
  context := some m.context
  tunneled := true
  peer := some (peer.getD Message.noPeer)

theorem inbound?_iff {m : Message} {boundary : String} {peer : Option String} {r : Inbound} :
    m.inbound? boundary peer = .ok r ↔ Http.isToken (Text.upper m.method) = true ∧
      ∃ uri, m.endpointUri? = some uri ∧ r = m.requestTo boundary peer uri := by
  unfold Message.inbound?
  dsimp only
  cases token : Http.isToken (Text.upper m.method) with
  | false => simp
  | true =>
    cases m.endpointUri? with
    | none => simp
    | some uri =>
      simp only [Bool.not_true, Bool.false_eq_true, if_false, Except.ok.injEq, true_and, Option.some.injEq,
        exists_eq_left']
      exact eq_comm

theorem inbound?_headers {m : Message} {boundary : String} {peer : Option String} {r : Inbound}
    (h : m.inbound? boundary peer = .ok r) : r.headers = m.inboundHeaders boundary := by
  obtain ⟨_, _, _, rfl⟩ := inbound?_iff.mp h
  rfl

/-- A message that is not taken in is complained of by its method or its endpoint. -/
theorem inbound?_error {m : Message} {boundary : String} {peer : Option String} {status : Rpc.Status}
    (h : m.inbound? boundary peer = .error status) :
    ∃ complaint, status = .plain .invalidArgument ("invalid " ++ complaint) := by
  unfold Message.inbound? at h
  dsimp only at h
  split at h
  · cases h
    exact ⟨"method \x60" ++ m.method ++ "\x60", by simp only [← String.append_assoc]; rfl⟩
  · split at h
    · cases h
      exact ⟨"endpoint \x60" ++ m.endpointText ++ "\x60", by simp only [← String.append_assoc]; rfl⟩
    · cases h

theorem deadline?_error {metadata : Http.Headers} {status : Rpc.Status}
    (h : deadline? metadata = .error status) : status = .plain .outOfRange "invalid deadline" := by
  unfold deadline? at h
  split at h
  · cases h
  · split at h
    · cases h
    · cases h
      rfl

theorem inbound?_tunneled {m : Message} {boundary : String} {peer : Option String} {r : Inbound}
    (h : m.inbound? boundary peer = .ok r) : r.tunneled = true := by
  obtain ⟨_, _, _, rfl⟩ := inbound?_iff.mp h
  rfl

/-- What the message says of its id and user comes along with the request. -/
theorem inbound?_context {m : Message} {boundary : String} {peer : Option String} {r : Inbound}
    (h : m.inbound? boundary peer = .ok r) : r.context = some m.context := by
  obtain ⟨_, _, _, rfl⟩ := inbound?_iff.mp h
  rfl

end Courier.Tunnel
