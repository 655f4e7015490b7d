import Courier.Proofs.Outbound
import Courier.Proofs.Tunnel.Crossing
/-!
One context over both transports.  Over HTTP a service has nothing but headers to read its context from; a
tunnelled request brings one along.  Both give the id and the user claims of the context with which the
call was made, each after its own way there and back, and the calling service is read off the
authorization header, which either transport delivers.
-/
namespace Courier

open Http (Headers)
open Http.Headers (get?)
open Json (Plain)

namespace Layer

variable {identity : Identity} {fresh : String} {r : Inbound}

/-- A context that came along is kept, but for the calling service. -/
theorem seen_of_context {context : Context} (brought : r.context = some context) :
    (seen identity fresh r).currentContext =
      { context with callerService := callerService identity r.headers } := by
  have kept : (identified fresh r).currentContext = context := by
    rw [Inbound.currentContext, identified, brought]
    rfl
  rw [seen_currentContext, kept]

theorem idOf_of_visible {h : Headers} {id : String} (some_id : id ≠ "")
    (shown : h.text? Context.requestIdHeader = some id) : idOf fresh h = id := by
  rw [idOf, shown]
  exact if_neg (by simpa using some_id)

/-- Without a context the headers are read, as they came in. -/
theorem seen_of_headers {id : String} {claims : Fields} (bare : r.context = none) (some_id : id ≠ "")
    (identifies : r.headers.text? Context.requestIdHeader = some id)
    (claimed : (r.headers.text? Claims.userHeader).bind Claims.decode? = some claims) :
    (seen identity fresh r).currentContext = ⟨id, claims, callerService identity r.headers⟩ := by
  obtain ⟨value, present, visible⟩ := Option.bind_eq_some_iff.mp identifies
  obtain ⟨all, rfl⟩ := Http.visible?_iff.mp visible
  have stamped : (identified fresh r).headers =
      r.headers.tryInsertText Context.requestIdHeader id := by
    rw [identified, idOf_of_visible some_id identifies]
  have idKept : (identified fresh r).headers.text? Context.requestIdHeader = some id := by
    rw [stamped, Headers.text?, Headers.get?_tryInsertText_self (Http.isLegalValue_of_visible all),
      Option.bind_some, visible]
  have claimsKept : (identified fresh r).headers.text? Claims.userHeader =
      r.headers.text? Claims.userHeader := by
    rw [stamped, Headers.text?, Headers.get?_tryInsertText_of_ne (by decide)]
    rfl
  have read : (identified fresh r).currentContext = ⟨id, claims, []⟩ := by
    have none_there : (identified fresh r).context = none := bare
    rw [Inbound.currentContext, none_there, Option.getD_none, Context.ofHeaders, idKept, claimsKept, claimed]
    rfl
  rw [seen_currentContext, read]

end Layer

namespace Call

open Layer (Shows callerService seen standard_shows)

theorem message_context (c : Call) {depth : Nat}
    (plain : Plain Whole depth (.obj c.context.callerUser)) (carried : Table String) :
    { c.message with headers := carried : Tunnel.Message }.context =
      ⟨c.context.correlation, c.context.callerUser, []⟩ := by
  have known : c.message.knownId = c.context.correlation := Tunnel.message_knownId c c.message.headers
  have claims : c.message.userClaims = c.context.callerUser := Struct.toJson_ofJson plain
  change Context.mk c.message.knownId c.message.userClaims [] = _
  rw [known, claims]

/-- For every call whose id is visible text and whose user claims are plain, whatever the token and the
headers that the caller adds, there is one context that a service behind the standard layers sees: when
the call's headers reach it over HTTP, and when the call's message reaches it through the tunnel, its
headers in any order.  It has the id and the user claims of the call's own context. -/
theorem context_agrees (identity : Identity) (c : Call) (token : String) (multipart : Bool) (date : String)
    (built : c.headers = Outbound.headers c.context token multipart c.request.headers c.span date)
    (visible : (Text.utf8 c.context.correlationId).all Http.isVisibleByte = true)
    (plain : Plain Whole Json.nestingLimit (.obj c.context.callerUser)) :
    ∃ context : Context, context.correlationId = c.context.correlation ∧
      context.callerUser = c.context.callerUser ∧
      (∀ (fresh : String) (r : Inbound), r.headers = c.headers → r.context = none →
        ∃ r', Shows identity fresh r r' ∧ r'.currentContext = context) ∧
      (∀ (fresh boundary : String) (peer : Option String) (carried : Table String) (r : Inbound),
        carried.Perm c.message.headers →
        Tunnel.Message.inbound? boundary peer { c.message with headers := carried } = .ok r →
        ∃ r', Shows identity fresh r r' ∧ r'.currentContext = context) := by
  have canonical : c.headers.Canonical := built ▸ Outbound.headers_canonical ..
  refine ⟨⟨c.context.correlation, c.context.callerUser, callerService identity c.headers⟩, rfl, rfl,
    ?_, ?_⟩
  · intro fresh r sent bare
    have identifies : r.headers.text? Context.requestIdHeader = some c.context.correlation := by
      rw [sent, built, Headers.text?, Outbound.requestId_headers _ _ _ _ _ _ visible, Option.bind_some]
      exact Http.visible?_iff.mpr ⟨Context.correlation_visible visible, rfl⟩
    have claimed : (r.headers.text? Claims.userHeader).bind Claims.decode? =
        some c.context.callerUser := by
      have shown := Http.visible?_iff.mpr ⟨Claims.encode_visible c.context.callerUser, rfl⟩
      rw [sent, built, Headers.text?, Outbound.user_headers, Option.bind_some, shown, Option.bind_some,
        Claims.decode?_encode plain]
    refine ⟨seen identity fresh r, standard_shows identity fresh r, ?_⟩
    rw [Layer.seen_of_headers bare c.context.correlation_ne_empty identifies claimed, sent]
  · intro fresh boundary peer carried r order taken
    have authorized : r.headers.text? "authorization" = c.headers.text? "authorization" := by
      rw [Tunnel.inbound?_headers taken, Headers.text?, Tunnel.get?_inboundHeaders]
      exact Tunnel.text?_carried canonical order Tunnel.authorization_carried
    refine ⟨seen identity fresh r, standard_shows identity fresh r, ?_⟩
    rw [Layer.seen_of_context ((Tunnel.inbound?_context taken).trans
      (congrArg some (message_context c plain carried))), Layer.callerService_congr identity authorized]

def visitor : Context where
  correlationId := "req-1"
  callerUser := [("level", .int (-3)), ("sub", .str "user-1")]

/-- A call for this user, with a token that nobody signed. -/
def visit : Call where
  target := "ledger"
  request := { method := "POST", path := "echo", headers := [("x-lane", "fast")] }
  context := visitor
  endpoint := ⟨"ledger", "http", "ledger", 80, 50080, "v1"⟩
  headers := Outbound.headers visitor "unsigned" false [("x-lane", "fast")] none
    "Thu, 01 Jan 1970 00:00:00 GMT"
  claims := []
  timeout := Duration.ofSeconds 1
  span := none

theorem visit_context_agrees :
    ∃ tunneled direct shown shown' : Inbound,
      visit.message.inbound? "part" none = .ok tunneled ∧ direct.headers = visit.headers ∧
      Shows ⟨"ledger", "s"⟩ "fresh" direct shown ∧ Shows ⟨"ledger", "s"⟩ "fresh" tunneled shown' ∧
      shown.currentContext = shown'.currentContext ∧ shown.currentContext.correlationId = "req-1" ∧
      shown.currentContext.callerUser = visitor.callerUser := by
  have ordered : Table.Ordered visitor.callerUser := by
    unfold Table.Ordered
    decide +kernel
  have plain : Plain Whole Json.nestingLimit (.obj visitor.callerUser) := by
    refine .obj ordered fun f member => ?_
    simp only [visitor, List.mem_cons, List.not_mem_nil, or_false] at member
    rcases member with rfl | rfl
    · exact .int (by unfold Whole; decide)
    · exact .str "user-1"
  have accepted : (visit.message.inbound? "part" none).isOk = true := by decide +kernel
  obtain ⟨context, id, user, direct, tunneled⟩ :=
    context_agrees ⟨"ledger", "s"⟩ visit "unsigned" false "Thu, 01 Jan 1970 00:00:00 GMT" rfl
      (by decide +kernel) plain
  cases taken : visit.message.inbound? "part" none with
  | error e =>
    rw [taken] at accepted
    cases accepted
  | ok r =>
    obtain ⟨shown, shows, same⟩ := direct "fresh" { r with headers := visit.headers, context := none } rfl rfl
    obtain ⟨shown', shows', same'⟩ := tunneled "fresh" "part" none visit.message.headers r (.refl _) taken
    exact ⟨r, _, shown, shown', rfl, rfl, shows, shows', same.trans same'.symm, same ▸ id, same ▸ user⟩

end Call
end Courier
