import Courier.Outbound
import Courier.Proofs.Context
/-!
Headers of an outbound call read back.  Whatever a caller adds, every name stands once and in lower case,
and the id and the user claims are those of the call's context: they are set last, and only the trace
headers come after the claims.
-/
namespace Courier

open Http (Headers)
open Http.Headers (get? Canonical)

theorem Trace.get?_inject_of_ne {name : String} (noParent : name ≠ parentHeader)
    (noState : name ≠ stateHeader) (active : Option Span) (h : Headers) :
    get? name (inject active h) = get? name h := by
  unfold inject
  split
  · rfl
  · exact Headers.get?_tryInsertText_of_ne noParent ..
  · rw [Headers.get?_tryInsertText_of_ne noState, Headers.get?_tryInsertText_of_ne noParent]

theorem Trace.get?_inject_state {s : Span} (valid : isValid s = true) (stated : s.state ≠ "")
    (legal : Http.isLegalValue (Text.utf8 s.state) = true) (h : Headers) :
    get? stateHeader (inject (some s) h) = some (Text.utf8 s.state) := by
  have shown : current (some s) = some (parentText s, some s.state) := by
    simp [current, valid, stated]
  unfold inject
  rw [shown]
  exact Headers.get?_tryInsertText_self legal _

theorem Trace.inject_canonical (active : Option Span) {h : Headers} (canonical : Canonical h) :
    Canonical (inject active h) := by
  unfold inject
  split
  · exact canonical
  · exact canonical.tryInsertText (by decide) _
  · exact (canonical.tryInsertText (by decide) _).tryInsertText (by decide) _

/-- What is written down comes from the active span. -/
theorem Trace.of_current {active : Option Span} {parent : String} {state : Option String}
    (shown : current active = some (parent, state)) :
    ∃ s, active = some s ∧ parent = parentText s ∧ ∀ text, state = some text → text = s.state := by
  obtain ⟨s, given, shown⟩ := Option.bind_eq_some_iff.mp shown
  split at shown
  · cases shown
    refine ⟨s, given, rfl, fun text stated => ?_⟩
    split at stated
    · cases stated
    · exact (Option.some.inj stated).symm
  · cases shown

theorem Trace.inject_all {P : String × Bytes → Prop} {active : Option Span} {h : Headers}
    (old : ∀ e ∈ h, P e) (traced : ∀ s, active = some s → P (parentHeader, Text.utf8 (parentText s)))
    (stated : ∀ s, active = some s → Http.isLegalValue (Text.utf8 s.state) = true →
      P (stateHeader, Text.utf8 s.state)) :
    ∀ e ∈ inject active h, P e := by
  unfold inject
  split
  · exact old
  · next parent shown =>
    obtain ⟨s, given, rfl, _⟩ := of_current shown
    exact Headers.all_tryInsertText old fun _ => traced s given
  · next parent state shown =>
    obtain ⟨s, given, rfl, same⟩ := of_current shown
    obtain rfl := same state rfl
    exact Headers.all_tryInsertText (Headers.all_tryInsertText old fun _ => traced s given)
      fun legal => stated s given legal

namespace Outbound

theorem addExtra_canonical {h : Headers} (canonical : Canonical h) (e : String × String) :
    Canonical (addExtra h e) := by
  unfold addExtra
  split
  · exact canonical
  · split
    · next name stored =>
      obtain ⟨rfl, _⟩ := Http.headerName?_stored stored
      exact canonical.tryInsertText (Text.lower_lower e.1) _
    · exact canonical

theorem extras_canonical (extra : Table String) {h : Headers} (canonical : Canonical h) :
    Canonical (extra.foldl addExtra h) := by
  induction extra generalizing h with
  | nil => exact canonical
  | cons e rest ih => exact ih (addExtra_canonical canonical e)

variable (context : Context) (token : String) (multipart : Bool) (extra : Table String)
  (active : Option Span) (date : String)

theorem headers_canonical : Canonical (headers context token multipart extra active date) := by
  have start : Canonical (extra.foldl addExtra []) := extras_canonical extra .nil
  have dated : Canonical (Headers.tryInsertText "date" date _) :=
    start.tryInsertText (by decide) date
  have signed : Canonical (Headers.tryInsertText "authorization" (bearer token) _) :=
    dated.tryInsertText (by decide) _
  have claimed : Canonical
      (Headers.tryInsertText Claims.userHeader (Claims.encode context.callerUser) _) :=
    signed.tryInsertText (by decide) _
  have defaulted : ∀ {name : String}, Text.lower name = name → ∀ (given : Bool) {h : Headers},
      Canonical h → Canonical (if given then h else h.insertText name jsonType) := by
    intro name lower given h canonical
    split
    · exact canonical
    · exact canonical.insert lower _
  unfold headers Trace.injectWithId
  dsimp only
  exact (Trace.inject_canonical active
    (defaulted (by decide) _ (defaulted (by decide) _ claimed))).tryInsertText (by decide) _

/-- What is true of each header that a caller adds, unless it is protected or illegal, and of each that is
set here. -/
structure Sends (P : String × Bytes → Prop) : Prop where
  added : ∀ e ∈ extra, protectedNames.contains e.1 = false → ∀ name, Http.headerName? e.1 = some name →
    Http.isLegalValue (Text.utf8 e.2) = true → P (name, Text.utf8 e.2)
  dated : P ("date", Text.utf8 date)
  signed : P ("authorization", Text.utf8 (bearer token))
  claimed : P (Claims.userHeader, Text.utf8 (Claims.encode context.callerUser))
  accepted : P ("accept", Text.utf8 jsonType)
  typed : multipart = false → P ("content-type", Text.utf8 jsonType)
  traced : ∀ s, active = some s → P (Trace.parentHeader, Text.utf8 (Trace.parentText s))
  stated : ∀ s, active = some s → Http.isLegalValue (Text.utf8 s.state) = true →
    P (Trace.stateHeader, Text.utf8 s.state)
  identified : P (Context.requestIdHeader, Text.utf8 context.correlation)

theorem extras_all {P : String × Bytes → Prop} {extra : Table String} {h : Headers} (old : ∀ e ∈ h, P e)
    (added : ∀ e ∈ extra, protectedNames.contains e.1 = false → ∀ name, Http.headerName? e.1 = some name →
      Http.isLegalValue (Text.utf8 e.2) = true → P (name, Text.utf8 e.2)) :
    ∀ e ∈ extra.foldl addExtra h, P e := by
  induction extra generalizing h with
  | nil => exact old
  | cons x rest ih =>
    refine ih ?_ fun e member => added e (List.mem_cons_of_mem _ member)
    unfold addExtra
    split
    · exact old
    · next free =>
      split
      · next name stored =>
        exact Headers.all_tryInsertText old (added x (List.mem_cons_self ..) (by simpa using free) name stored)
      · exact old

theorem headers_all {P : String × Bytes → Prop}
    (sends : Sends context token multipart extra active date P) :
    ∀ e ∈ headers context token multipart extra active date, P e := by
  have added : ∀ e ∈ extra.foldl addExtra [], P e := extras_all nofun sends.added
  have dated : ∀ e ∈ Headers.tryInsertText "date" date _, P e :=
    Headers.all_tryInsertText added fun _ => sends.dated
  have signed : ∀ e ∈ Headers.tryInsertText "authorization" (bearer token) _, P e :=
    Headers.all_tryInsertText dated fun _ => sends.signed
  have claimed : ∀ e ∈ Headers.tryInsertText Claims.userHeader (Claims.encode context.callerUser) _, P e :=
    Headers.all_tryInsertText signed fun _ => sends.claimed
  have defaulted : ∀ {name : String} {given : Bool} {h : Headers}, (∀ e ∈ h, P e) →
      (given = false → P (name, Text.utf8 jsonType)) →
      ∀ e ∈ (if given then h else h.insertText name jsonType), P e := by
    intro name given h old new
    cases given with
    | true => exact old
    | false => exact Headers.all_insert old (new rfl)
  unfold headers Trace.injectWithId
  dsimp only
  refine Headers.all_tryInsertText (Trace.inject_all ?_ sends.traced sends.stated) fun _ => sends.identified
  exact defaulted (defaulted claimed fun _ => sends.accepted) sends.typed

theorem get?_defaulted_of_ne {name other : String} (different : other ≠ name) (given : Bool) (h : Headers) :
    get? other (if given then h else h.insertText name jsonType) = get? other h := by
  split
  · rfl
  · exact Headers.get?_insert_of_ne different _ h

/-- Without files the body is declared to be JSON. -/
theorem contentType_headers : get? "content-type" (headers context token false extra active date) =
    some (Text.utf8 jsonType) := by
  unfold headers Trace.injectWithId
  dsimp only
  rw [Headers.get?_tryInsertText_of_ne (by decide), Trace.get?_inject_of_ne (by decide) (by decide),
    if_neg Bool.false_ne_true]
  exact Headers.get?_insert_self _ _ _

theorem requestId_headers (visible : (Text.utf8 context.correlationId).all Http.isVisibleByte = true) :
    get? Context.requestIdHeader (headers context token multipart extra active date) =
      some (Text.utf8 context.correlation) :=
  Headers.get?_tryInsertText_self (Http.isLegalValue_of_visible (Context.correlation_visible visible)) _

theorem user_headers :
    get? Claims.userHeader (headers context token multipart extra active date) =
      some (Text.utf8 (Claims.encode context.callerUser)) := by
  have legal := Http.isLegalValue_of_visible (Claims.encode_visible context.callerUser)
  unfold headers Trace.injectWithId
  dsimp only
  rw [Headers.get?_tryInsertText_of_ne (by decide), Trace.get?_inject_of_ne (by decide) (by decide),
    get?_defaulted_of_ne (by decide), get?_defaulted_of_ne (by decide)]
  exact Headers.get?_tryInsertText_self legal _

theorem state_headers {s : Span} (valid : Trace.isValid s = true) (stated : s.state ≠ "")
    (legal : Http.isLegalValue (Text.utf8 s.state) = true) :
    get? Trace.stateHeader (headers context token multipart extra (some s) date) =
      some (Text.utf8 s.state) := by
  unfold headers Trace.injectWithId
  dsimp only
  rw [Headers.get?_tryInsertText_of_ne (by decide)]
  exact Trace.get?_inject_state valid stated legal _

/-- Names of the headers that are set here. -/
def ownNames : List String :=
  ["date", "authorization", Claims.userHeader, "accept", "content-type", Trace.parentHeader,
    Trace.stateHeader, Context.requestIdHeader]

/-- Under any other name there is what the caller adds. -/
theorem added_headers {name : String} (other : name ∉ ownNames) :
    get? name (headers context token multipart extra active date) =
      get? name (extra.foldl addExtra []) := by
  simp only [ownNames, List.mem_cons, List.not_mem_nil, or_false, not_or] at other
  obtain ⟨date, signed, claimed, accepted, typed, parent, state, identified⟩ := other
  unfold headers Trace.injectWithId
  dsimp only
  rw [Headers.get?_tryInsertText_of_ne identified, Trace.get?_inject_of_ne parent state,
    get?_defaulted_of_ne typed, get?_defaulted_of_ne accepted, Headers.get?_tryInsertText_of_ne claimed,
    Headers.get?_tryInsertText_of_ne signed, Headers.get?_tryInsertText_of_ne date]

end Outbound
end Courier
