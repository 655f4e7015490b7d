import Courier.Proofs.Http.Uri
import Courier.Proofs.Outbound
import Courier.Proofs.Outbound.Texts
import Courier.Proofs.Tunnel.Crossing
/-!
The request that comes out of the tunnel, beside the one that goes over HTTP for the same call.  A message
has the address as one text, the fields of the body as one JSON text each and the headers as far as they
are visible; what is made of it at the other end has the method, the path, the pairs of the query, the
headers and the body bytes of the HTTP submission.  The exceptions are headers that the other end makes
from the message itself, and that a caller can add only in a spelling of its own, and a vendor state that
is not visible.
-/
namespace Courier.Call

open Http (Headers)
open Http.Headers (Canonical get?)

/-- A call without files whose method has no small letters, whose path is a path and nothing more, whose
own texts are visible and whose fields are plain. -/
structure Replayable (c : Call) : Prop where
  noFiles : c.request.files = []
  token : Http.isToken c.request.method = true
  capital : ∀ x ∈ c.request.method.toList, x.isLower = false
  rooted : Text.startsWith c.path "/" = true
  plainPath : ∀ x ∈ c.path.toList, x ≠ '?' ∧ x ≠ '#'
  accepted : (Http.Uri.parse? c.path).isSome = true
  short : (Form.withQuery c.path c.request.query).utf8ByteSize ≤ Http.Uri.lengthLimit
  noEncoding : ∀ e ∈ c.request.headers, Text.lower e.1 ≠ "transfer-encoding"
  visible : ∀ e ∈ c.request.headers, Http.isLegalValue (Text.utf8 e.2) = true →
    (Text.utf8 e.2).all Http.isVisibleByte = true
  identified : (Text.utf8 c.context.correlationId).all Http.isVisibleByte = true
  plain : ∀ f ∈ c.request.payload, Json.Plain Json.IsInt Json.nestingLimit f.2

/-- A caller adds its own host or length in lower case only, and then they are not sent. -/
def KeepsFraming (c : Call) : Prop :=
  ∀ e ∈ c.request.headers, Text.lower e.1 ∈ ["content-length", "host"] → Text.lower e.1 = e.1

/-- The format of the vendor state is printable ASCII. -/
def ShowsState (c : Call) : Prop :=
  ∀ s, c.span = some s → Http.isLegalValue (Text.utf8 s.state) = true →
    (Text.utf8 s.state).all Http.isVisibleByte = true

/-- A request is what is sent over HTTP for a call. -/
structure Replayed (c : Call) (r : Inbound) : Prop where
  method : r.method = c.submission.method
  path : r.uri.path = c.path
  query : Form.decode (Text.utf8 (r.uri.query.getD "")) = c.submission.query
  headers : r.headers.Perm c.submission.headers
  body : c.submission.payload.bytes? = some r.body
  text : r.body = if c.request.payload.isEmpty then [] else Json.bytes (.obj c.request.payload)

/-- The message of a call is taken in as what is sent over HTTP, its headers in any order. -/
def Replays (c : Call) : Prop :=
  ∀ (boundary : String) (peer : Option String) (carried : Table String),
    carried.Perm c.message.headers →
    ∃ r, Tunnel.Message.inbound? boundary peer { c.message with headers := carried } = .ok r ∧ Replayed c r

/-- The headers of a call are those of every outbound call, with a fresh token and the date. -/
def Signed (c : Call) (identity : Identity) (audience : String) (now seconds : Int) : Prop :=
  c.headers = Outbound.headers c.context (Token.issue identity audience now).1 c.request.hasFiles
    c.request.headers c.span (Http.Date.text seconds)

variable {c : Call} {identity : Identity} {audience : String} {now seconds : Int}

theorem Signed.canonical (signed : c.Signed identity audience now seconds) : c.headers.Canonical := by
  rw [signed]
  exact Outbound.headers_canonical ..

namespace Replayable

variable (replayable : c.Replayable)
include replayable

/-! ### Headers -/

theorem withoutFiles : c.request.hasFiles = false := by
  rw [Request.hasFiles, replayable.noFiles]
  rfl

/-- Of the names that are replaced at the other end a caller can add none but the content type. -/
theorem added_kept (framing : c.KeepsFraming) {e : String × String} (member : e ∈ c.request.headers)
    (free : Outbound.protectedNames.contains e.1 = false) (untyped : Text.lower e.1 ≠ "content-type") :
    Tunnel.replacedHeaders.contains (Text.lower e.1) = false := by
  have unframed : Text.lower e.1 ∉ ["content-length", "host"] := by
    intro framed
    have spelled : e.1 ∈ ["content-length", "host"] := framing e member framed ▸ framed
    have held : ∀ name ∈ ["content-length", "host"], Outbound.protectedNames.contains name = true := by
      decide
    exact Bool.false_ne_true (free.symm.trans (held e.1 spelled))
  have decoded := replayable.noEncoding e member
  simp only [List.mem_cons, List.not_mem_nil, or_false, not_or] at unframed
  simp only [Tunnel.replacedHeaders, List.contains_eq_mem, List.mem_cons, List.not_mem_nil, or_false,
    decide_eq_false_iff_not, not_or]
  exact ⟨untyped, unframed.1, decoded, unframed.2⟩

section

variable (signed : c.Signed identity audience now seconds) (framing : c.KeepsFraming)
  (shown : c.ShowsState)
include signed framing shown

/-- All headers of a call come through but the content type, which is made anew. -/
theorem headers_cross : ∀ e ∈ c.headers, e.1 ≠ "content-type" → Tunnel.Crosses e := by
  have date : Tunnel.Carried "date" := by decide
  have user : Tunnel.Carried Claims.userHeader := by decide
  have accept : Tunnel.Carried "accept" := by decide
  have parent : Tunnel.Carried Trace.parentHeader := by decide
  have state : Tunnel.Carried Trace.stateHeader := by decide
  have id : Tunnel.Carried Context.requestIdHeader := by decide
  rw [signed]
  refine Outbound.headers_all _ _ _ _ _ _ ⟨?added, ?dated, ?signed, ?claimed, ?accepted, ?typed, ?traced,
    ?stated, ?identified⟩
  case added =>
    intro e member free name stored legal untyped
    obtain ⟨rfl, token, short⟩ := Http.headerName?_stored stored
    exact ⟨⟨replayable.added_kept framing member free untyped, token, short⟩,
      replayable.visible e member legal⟩
  case dated => exact fun _ => ⟨date, Http.Date.text_visible seconds⟩
  case signed =>
    have bearer := Http.all_visible_append (a := "Bearer ") (by decide +kernel)
      (Token.issue_visible identity audience now)
    exact fun _ => ⟨Tunnel.authorization_carried, bearer⟩
  case claimed => exact fun _ => ⟨user, Claims.encode_visible _⟩
  case accepted => exact fun _ => ⟨accept, by decide +kernel⟩
  case typed => exact fun _ untyped => absurd rfl untyped
  case traced => exact fun s _ _ => ⟨parent, Trace.parentText_visible s⟩
  case stated => exact fun s given legal _ => ⟨state, shown s given legal⟩
  case identified => exact fun _ => ⟨id, Context.correlation_visible replayable.identified⟩

theorem inboundHeaders_perm {carried : Table String} (same : carried.Perm c.message.headers)
    (boundary : String) :
    (Tunnel.Message.inboundHeaders boundary { c.message with headers := carried }).Perm c.headers := by
  have json : Http.isLegalValue (Text.utf8 Outbound.jsonType) = true := by decide +kernel
  have visible : Http.isLegalValue (Text.utf8 c.context.correlation) = true :=
    Http.isLegalValue_of_visible (Context.correlation_visible replayable.identified)
  refine Canonical.perm_of_get? (Tunnel.inboundHeaders_canonical boundary _) signed.canonical fun name => ?_
  by_cases identified : name = Context.requestIdHeader
  · subst identified
    have sent : get? Context.requestIdHeader c.headers = some (Text.utf8 c.context.correlation) := by
      rw [signed]
      exact Outbound.requestId_headers _ _ _ _ _ _ replayable.identified
    rw [sent, Tunnel.Message.inboundHeaders, Tunnel.message_knownId]
    exact Headers.get?_tryInsertText_self visible _
  by_cases typed : name = "content-type"
  · subst typed
    have sent : get? "content-type" c.headers = some (Text.utf8 Outbound.jsonType) := by
      rw [signed, replayable.withoutFiles]
      exact Outbound.contentType_headers ..
    have made : Tunnel.Message.contentType boundary { c.message with headers := carried } =
        Outbound.jsonType := by
      rw [Tunnel.Message.contentType, message, replayable.noFiles]
      rfl
    rw [sent, Tunnel.Message.inboundHeaders, made]
    dsimp only
    rw [Headers.get?_tryInsertText_of_ne (by decide)]
    exact Headers.get?_tryInsertText_self json _
  · rw [Tunnel.get?_inboundHeaders_of_ne typed identified]
    refine Tunnel.get?_carried signed.canonical same fun v member => ?_
    exact replayable.headers_cross signed framing shown (name, v) member typed

end

/-! ### Address and body -/

theorem endpointUri?_message (carried : Table String) :
    ∃ uri, Tunnel.Message.endpointUri? { c.message with headers := carried } = some uri ∧
      uri.path = c.path ∧ Form.decode (Text.utf8 (uri.query.getD "")) = c.request.query := by
  obtain ⟨_, slash⟩ := (Text.startsWith_iff c.path "/").mp replayable.rooted
  have allowed := Http.Uri.all_isPathChar_of_accepted replayable.plainPath slash.symm replayable.accepted
  obtain ⟨uri, parsed, path, query⟩ :=
    Http.Uri.parse?_withQuery allowed replayable.rooted c.request.query replayable.short
  have read : Tunnel.Message.endpointText { c.message with headers := carried } =
      Form.withQuery c.path c.request.query := Text.lossy_utf8 _
  have rooted : Text.startsWith uri.path "/" = true := path ▸ replayable.rooted
  refine ⟨uri, ?_, path, query⟩
  rw [Tunnel.Message.endpointUri?, read, parsed, Option.filter_some, if_pos rooted]

theorem content_message (boundary : String) (carried : Table String) :
    Tunnel.Message.content boundary { c.message with headers := carried } =
      if c.request.payload.isEmpty then [] else Json.bytes (.obj c.request.payload) := by
  have fields : Tunnel.decodeFields (Tunnel.encodeFields c.request.payload) = c.request.payload :=
    Tunnel.decodeFields_encodeFields replayable.plain
  have nothing : (Tunnel.encodeFields c.request.payload).isEmpty = c.request.payload.isEmpty := by
    cases c.request.payload <;> rfl
  unfold Tunnel.Message.content message
  dsimp only
  rw [replayable.noFiles, fields, nothing]
  rfl

theorem bytes?_submission : c.submission.payload.bytes? =
    some (if c.request.payload.isEmpty then [] else Json.bytes (.obj c.request.payload)) := by
  rw [submission, payload, replayable.withoutFiles]
  cases c.request.payload <;> rfl

end Replayable

/-! ### The whole request -/

/-- The tunnel replays what is sent over HTTP, unless the caller spells a host or length in its own way or
a span has a vendor state that is not visible. -/
theorem replays_submission (signed : c.Signed identity audience now seconds) (replayable : c.Replayable)
    (framing : c.KeepsFraming) (shown : c.ShowsState) : c.Replays := by
  intro boundary peer carried same
  have capital : Text.upper c.request.method = c.request.method := Text.upper_of_clear replayable.capital
  obtain ⟨uri, read, path, query⟩ := replayable.endpointUri?_message carried
  have taken : Tunnel.Message.inbound? boundary peer { c.message with headers := carried } =
      .ok (Tunnel.Message.requestTo boundary peer { c.message with headers := carried } uri) := by
    refine Tunnel.inbound?_iff.mpr ⟨?_, uri, read, rfl⟩
    exact (congrArg Http.isToken capital).trans replayable.token
  refine ⟨_, taken, ?_⟩
  exact {
    method := capital
    path := path
    query := query
    headers := replayable.inboundHeaders_perm signed framing shown same boundary
    body := replayable.bytes?_submission.trans
      (congrArg some (replayable.content_message boundary carried).symm)
    text := replayable.content_message boundary carried }

/-- A call with a query, a body, headers of its own and a span. -/
def posting (added : Table String) (active : Option Span) : Call :=
  let context : Context := ⟨"req-1", [("sub", .str "user-1")], []⟩
  let token := (Token.issue ⟨"caller", "secret"⟩ "ledger" 1700000000).1
  { target := "ledger"
    request := { method := "POST", path := "/entries", query := [("q", "a b")], payload := [("n", .int 1)]
                 headers := added }
    context := context
    endpoint := ⟨"ledger", "http", "ledger", 8000, 9000, "v1"⟩
    headers := Outbound.headers context token false added active (Http.Date.text 1700000000)
    claims := []
    timeout := ⟨30000000000⟩
    span := active }

theorem posting_signed (added : Table String) (active : Option Span) :
    (posting added active).Signed ⟨"caller", "secret"⟩ "ledger" 1700000000 1700000000 := rfl

theorem posting_path (added : Table String) (active : Option Span) :
    (posting added active).path = "/entries" :=
  if_pos (by decide : Text.startsWith "/entries" "/" = true)

theorem posting_replayable {added : Table String} (active : Option Span)
    (noEncoding : ∀ e ∈ added, Text.lower e.1 ≠ "transfer-encoding")
    (visible : ∀ e ∈ added, (Text.utf8 e.2).all Http.isVisibleByte = true) :
    (posting added active).Replayable where
  noFiles := rfl
  token := (by decide : Http.isToken "POST" = true)
  capital := by
    have capital : "POST".toList.all (fun x => !x.isLower) = true := by decide
    simpa only [List.all_eq_true, Bool.not_eq_true', posting] using capital
  rooted := by
    rw [posting_path]
    decide
  plainPath := by
    rw [posting_path]
    simp
  accepted := by
    rw [posting_path]
    decide
  short := by
    rw [posting_path]
    exact (by decide +kernel : (Form.withQuery "/entries" [("q", "a b")]).utf8ByteSize ≤ Http.Uri.lengthLimit)
  noEncoding := noEncoding
  visible := fun e member _ => visible e member
  identified := (by decide +kernel : (Text.utf8 "req-1").all Http.isVisibleByte = true)
  plain := by
    intro f member
    obtain rfl := List.mem_singleton.mp member
    exact .int ⟨by decide, by decide⟩

/-- A call that is replayed: a header of its own, and a span with a vendor state. -/
theorem posting_replays : (posting [("X-Batch", "7")] (some ⟨1, 2, 1, "vendor=on"⟩)).Replays := by
  refine replays_submission (posting_signed _ _) (posting_replayable _ ?_ ?_) ?_ ?_
  · exact List.forall_mem_singleton.mpr (by decide)
  · exact List.forall_mem_singleton.mpr (by decide +kernel)
  · exact List.forall_mem_singleton.mpr fun framed => absurd framed (by decide)
  · intro s given _
    obtain rfl := Option.some.inj given
    decide +kernel

/-! ### What is lost -/

/-- A call with a header that the other end of the tunnel does not have is not replayed. -/
theorem not_replays_of_lost {name : String} {v : Bytes} (sent : get? name c.headers = some v)
    (lost : get? name (c.message.inboundHeaders "") = none) : ¬ c.Replays := by
  intro replayed
  obtain ⟨r, taken, same⟩ := replayed "" none c.message.headers (.refl _)
  have there : (name, v) ∈ c.message.inboundHeaders "" := by
    rw [← Tunnel.inbound?_headers taken]
    exact same.headers.mem_iff.mpr (Http.Headers.mem_of_get? sent)
  rw [(Tunnel.inboundHeaders_canonical "" _).get?_of_mem there] at lost
  cases lost

/-- What frames a body is made anew, and a caller's own is lost. -/
theorem not_replays_of_replaced {name : String} {v : Bytes}
    (replaced : Tunnel.replacedHeaders.contains name = true) (untyped : name ≠ "content-type")
    (sent : get? name c.headers = some v) : ¬ c.Replays := by
  have unnamed : name ≠ Context.requestIdHeader := by
    rintro rfl
    exact absurd replaced (by decide)
  refine not_replays_of_lost sent ?_
  rw [Tunnel.get?_inboundHeaders_of_ne untyped unnamed, Tunnel.get?_foldl_addHeader_of_replaced replaced]
  rfl

/-- A value that is not visible is left behind. -/
theorem Signed.not_replays_of_hidden (signed : c.Signed identity audience now seconds) {name : String}
    {v : Bytes} (untyped : name ≠ "content-type") (unnamed : name ≠ Context.requestIdHeader)
    (sent : get? name c.headers = some v) (hidden : Http.visible? v = none) : ¬ c.Replays := by
  have unseen : c.headers.text? name = none := by rw [Headers.text?, sent, Option.bind_some, hidden]
  refine not_replays_of_lost sent ?_
  rw [Tunnel.get?_inboundHeaders_of_ne untyped unnamed]
  exact Tunnel.get?_foldl_addHeader_of_clear
    (Tunnel.carried_clear signed.canonical (.refl (wireHeaders c.headers)) unseen) []

/-- A host under a name with a capital. -/
def hosting : Call := posting [("Host", "h")] none

/-- A vendor state that is not visible. -/
def vending : Call := posting [] (some ⟨1, 2, 1, "vendor=é"⟩)

/-- Neither comes through, although both calls are replayable in all else. -/
theorem posting_loses :
    (hosting.Signed ⟨"caller", "secret"⟩ "ledger" 1700000000 1700000000 ∧ hosting.Replayable ∧
      hosting.ShowsState ∧ ¬ hosting.Replays) ∧
    (vending.Signed ⟨"caller", "secret"⟩ "ledger" 1700000000 1700000000 ∧ vending.Replayable ∧
      vending.KeepsFraming ∧ ¬ vending.Replays) := by
  have hosting_signed : hosting.Signed ⟨"caller", "secret"⟩ "ledger" 1700000000 1700000000 :=
    posting_signed _ _
  have vending_signed : vending.Signed ⟨"caller", "secret"⟩ "ledger" 1700000000 1700000000 :=
    posting_signed _ _
  have host : get? "host" hosting.headers = some (Text.utf8 "h") := by
    rw [hosting_signed, Outbound.added_headers _ _ _ _ _ _ (by decide)]
    decide +kernel
  have state : get? Trace.stateHeader vending.headers = some (Text.utf8 "vendor=é") := by
    rw [vending_signed]
    exact Outbound.state_headers _ _ _ _ _ (by decide) (by decide) (by decide +kernel)
  refine ⟨⟨hosting_signed, posting_replayable _ ?_ ?_, nofun, ?_⟩,
    ⟨vending_signed, posting_replayable _ nofun nofun, nofun, ?_⟩⟩
  · exact List.forall_mem_singleton.mpr (by decide)
  · exact List.forall_mem_singleton.mpr (by decide +kernel)
  · exact not_replays_of_replaced (by decide) (by decide) host
  · exact vending_signed.not_replays_of_hidden (by decide) (by decide) state (by decide +kernel)

end Courier.Call
