import Courier.Client
import Courier.Tunnel.Exchange
import Courier.Proofs.Rpc.Status
import Courier.Proofs.Tunnel.Execution
/-!
What the caller of a tunnel hears of the service at the other end.  A carriage that is let in runs the
service once, and then the ending of the service, the time and the limits decide what comes back.
`Misheard` singles out the endings that come back in the words of a broken tunnel, although the service
has run: a reply that is too long for one of the ends, and a body that breaks off with trouble of a
telling wording.  The path between the ends is taken to be whole.
-/
namespace Courier.Tunnel

variable {σ : Type}

/-- The time that a carriage allows the service, if the host can read it. -/
def limitOf (c : Carriage) : Except Rpc.Status (Option Duration) := deadline? (framing ++ c.metadata)

/-- The request with which a carriage runs the service of a host, if it gets that far. -/
def admitted? (host : Host σ) (peer : Option String) (c : Carriage) : Option Inbound :=
  match passage (Wire.encodeMessage c.message).length c.messageLimit host.messageLimit,
    checkFraming (framing ++ c.metadata), limitOf c, c.message.inbound? host.boundary peer with
  | .ok _, .ok _, .ok _, .ok request => some request
  | _, _, _, _ => none

/-- The words of a peer that does not speak the protocol, in trouble of the service's own. -/
def NamesProtocol (detail : String) : Prop :=
  ∃ word ∈ Rpc.Status.protocolWords, Text.contains (Text.lower detail) word = true

/-- A route took the request, and its response is over while it is still waited for. -/
structure Heard (now : Instant) (c : Carriage) (v : Served) : Prop where
  registered : v.registered = true
  head : ∀ d, limitOf c = .ok (some d) → (timerTick now d).lt v.delay = false
  whole : (v.delay.add v.bodyDelay).le c.timeout = true

/-- The response comes back as trouble of the tunnel. -/
def Spoiled (writing reading : Nat) (v : Served) : Prop :=
  match v.bodyEnd with
  | .complete =>
    min writing reading < (Wire.encodeReply ⟨v.response.body, v.response.status.code⟩).length
  | .broken detail => NamesProtocol detail
  | .endless => False

/-- An ending of the service that the caller takes for a failure of the tunnel. -/
inductive Misheard (now : Instant) (c : Carriage) (hostLimit : Nat) : Ending → Prop where
  | intro {v : Served} (heard : Heard now c v) (spoiled : Spoiled hostLimit c.messageLimit v) :
      Misheard now c hostLimit (.served v)

/-! ### Statuses that come back -/

theorem oversized_allowsFallback (doing : String) (length limit : Nat) (service : String)
    (deadline : Option Duration) (elapsed : Duration) :
    ((oversized doing length limit).fault service deadline elapsed).allowsFallback = true := by
  unfold oversized
  rw [Rpc.Status.plain_fault_allowsFallback (by decide)]
  have opening : Text.contains (Text.lower " message length too large: found ")
      "message length too large" = true := by decide
  simp only [Rpc.Status.isProtocolFailure, Rpc.Status.plain, Text.lower_append]
  iterate 4 apply Text.contains_append_left
  exact Text.contains_append_right opening _

theorem expired_allowsFallback (d : Duration) (service : String) (deadline : Option Duration)
    (elapsed : Duration) :
    ((expired d).fault service deadline elapsed).allowsFallback = false := by
  unfold expired
  rw [Rpc.Status.plain_fault_allowsFallback (by decide)]
  rfl

theorem unregistered_allowsFallback (endpoint service : String) (deadline : Option Duration)
    (elapsed : Duration) :
    ((unrouted endpoint).fault service deadline elapsed).allowsFallback = false := by
  rw [unrouted, Rpc.Status.plain_fault_allowsFallback (by decide), String.append_assoc]
  exact Rpc.Status.unregistered_isProtocolFailure _

/-- No word begins at the end of the opening, so a word in the message is one in the detail. -/
theorem broken_contains {word : String} (h : word ∈ Rpc.Status.protocolWords) (detail : String) :
    Text.contains (Text.lower (brokenOpening ++ detail)) word = Text.contains (Text.lower detail) word := by
  have absent : ∀ x ∈ Rpc.Status.protocolWords,
      Text.contains (Text.lower brokenOpening) x = false := by decide
  have clear : ∀ x ∈ Rpc.Status.protocolWords, ∀ n, n < x.toList.length → n ≠ 0 →
      ¬ x.toList.take n <:+ (Text.lower brokenOpening).toList := by decide
  rw [Text.lower_append]
  exact Text.contains_append_of_clear (absent word h) (clear word h) (Text.lower detail)

theorem broken_allowsFallback (detail service : String) (deadline : Option Duration)
    (elapsed : Duration) :
    ((Rpc.Status.plain .internal (brokenOpening ++ detail)).fault service deadline
      elapsed).allowsFallback = true ↔ NamesProtocol detail := by
  rw [Rpc.Status.plain_fault_allowsFallback (by decide)]
  simp only [Rpc.Status.isProtocolFailure, Rpc.Status.plain, List.any_eq_true, NamesProtocol]
  constructor
  · rintro ⟨word, listed, found⟩
    exact ⟨word, listed, by rwa [broken_contains listed] at found⟩
  · rintro ⟨word, listed, found⟩
    exact ⟨word, listed, by rwa [broken_contains listed]⟩

/-! ### Answers that come back -/

/-- A service's response has a status of HTTP, so it is never refused for its number. -/
theorem reply_outcome (service : String) (body : Bytes) (status : Http.Status) :
    Reply.outcome service ⟨body, status.code⟩ = .ok ⟨status, Courier.Reply.decodeBody body, .tunnel⟩ := by
  simp only [Reply.outcome, Int.toNat_natCast, Http.Status.ofNat?_code]

theorem reply_fallsBack (service : String) (body : Bytes) (status : Http.Status) :
    Client.fallsBack (Reply.outcome service ⟨body, status.code⟩) = false := by
  rw [reply_outcome]
  rfl

theorem passage_ok {length writing reading : Nat} (h : length ≤ min writing reading) :
    passage length writing reading = .ok () := by
  have writes : ¬ writing < length := by omega
  have reads : ¬ reading < length := by omega
  simp [passage, writes, reads]

theorem passage_error {length writing reading : Nat} (h : min writing reading < length) :
    ∃ doing limit, passage length writing reading = .error (oversized doing length limit) := by
  unfold passage
  split
  · exact ⟨_, _, rfl⟩
  · next short =>
    have long : reading < length := by omega
    rw [if_pos long]
    exact ⟨_, _, rfl⟩

theorem answered_fallsBack (service : String) (limit elapsed : Duration) (writing reading : Nat)
    (body : Bytes) (status : Http.Status) :
    Client.fallsBack ((deliveryOf elapsed writing reading (.answered ⟨body, status.code⟩)).outcome
      service limit) = true ↔
      min writing reading < (Wire.encodeReply ⟨body, status.code⟩).length := by
  unfold deliveryOf
  dsimp only
  rcases Nat.lt_or_ge (min writing reading) (Wire.encodeReply ⟨body, status.code⟩).length with
    long | short
  · obtain ⟨doing, most, refused⟩ := passage_error long
    rw [refused]
    simp only [Delivery.outcome, Client.fallsBack, oversized_allowsFallback, long]
  · rw [passage_ok short]
    have fits : ¬ min writing reading < (Wire.encodeReply ⟨body, status.code⟩).length := by omega
    simp only [Delivery.outcome, reply_fallsBack, fits, Bool.false_eq_true]

theorem failed_fallsBack (service : String) (limit elapsed : Duration) (writing reading : Nat)
    (status : Rpc.Status) :
    Client.fallsBack ((deliveryOf elapsed writing reading (.failed status)).outcome service limit) =
      (status.fault service (some limit) elapsed).allowsFallback := rfl

section

variable (c : Carriage) (service : String) (writing : Nat)

/-- What the caller makes of a call that would end like this if it were never given up. -/
def perceived (ended : CallEnd × Option Duration) : Outcome :=
  (deliveryOf (dropAfter (some c.timeout) ended).2 writing c.messageLimit
    (dropAfter (some c.timeout) ended).1).outcome service c.timeout

theorem perceived_at (e : CallEnd) (t : Duration) :
    perceived c service writing (e, some t) =
      if t.le c.timeout then (deliveryOf t writing c.messageLimit e).outcome service c.timeout
      else .error (.timeout service c.timeout) := by
  unfold perceived dropAfter
  by_cases inTime : t.le c.timeout
  · simp only [inTime, if_true]
  · simp only [inTime, Bool.false_eq_true, if_false]
    rfl

theorem perceived_never (e : CallEnd) :
    perceived c service writing (e, none) = .error (.timeout service c.timeout) := rfl

/-- Nothing that ends without an answer of the service sends the request on. -/
theorem expired_perceived (d : Duration) (t : Duration) :
    Client.fallsBack (perceived c service writing (.failed (expired d), some t)) = false := by
  rw [perceived_at]
  split
  · rw [failed_fallsBack]
    exact expired_allowsFallback d service (some c.timeout) t
  · rfl

theorem responded_perceived (v : Served) :
    Client.fallsBack (perceived c service writing (responded v)) = true ↔
      (v.delay.add v.bodyDelay).le c.timeout = true ∧ Spoiled writing c.messageLimit v := by
  unfold Spoiled responded
  cases v.bodyEnd with
  | endless => simp [perceived_never, Client.fallsBack, Fault.allowsFallback]
  | complete =>
    dsimp only
    rw [perceived_at]
    by_cases inTime : (v.delay.add v.bodyDelay).le c.timeout
    · simp only [inTime, if_true, true_and]
      exact answered_fallsBack service c.timeout _ writing c.messageLimit _ _
    · simp [inTime, Client.fallsBack, Fault.allowsFallback]
  | broken detail =>
    dsimp only
    rw [perceived_at]
    by_cases inTime : (v.delay.add v.bodyDelay).le c.timeout
    · simp only [inTime, if_true, true_and]
      rw [failed_fallsBack]
      exact broken_allowsFallback detail service (some c.timeout) _
    · simp [inTime, Client.fallsBack, Fault.allowsFallback]

variable (endpoint : String) {now : Instant} {limit : Option Duration} {v : Served}

theorem unrouted_perceived (t : Duration) :
    Client.fallsBack (perceived c service writing (.failed (unrouted endpoint), some t)) = false := by
  rw [perceived_at]
  split
  · rw [failed_fallsBack]
    exact unregistered_allowsFallback endpoint service (some c.timeout) t
  · rfl

theorem panicked_perceived (t : Duration) :
    Client.fallsBack (perceived c service writing (.panicked, some t)) = false := by
  rw [perceived_at]
  split <;> rfl

/-- The caller goes on to HTTP after the service has run exactly when it mishears the service. -/
theorem undisturbed_fallsBack (allowed : limitOf c = .ok limit) (ending : Ending) :
    Client.fallsBack (perceived c service writing (undisturbed endpoint now limit ending)) = true ↔
      Misheard now c writing ending := by
  cases ending with
  | panicked =>
    have stays := panicked_perceived c service writing .zero
    exact ⟨fun back => absurd (stays.symm.trans back) Bool.false_ne_true, nofun⟩
  | silent =>
    have stays : Client.fallsBack (perceived c service writing (undisturbed endpoint now limit .silent)) =
        false := by
      cases limit with
      | none => rfl
      | some d => exact expired_perceived c service writing d (timerTick now d)
    exact ⟨fun back => absurd (stays.symm.trans back) Bool.false_ne_true, nofun⟩
  | served v =>
    have head_iff : HeadInTime now limit v ↔
        ∀ d, limitOf c = .ok (some d) → (timerTick now d).lt v.delay = false := by
      simp [HeadInTime, allowed]
    by_cases inTime : HeadInTime now limit v
    · rw [undisturbed_inTime endpoint inTime]
      cases taken : v.registered with
      | false =>
        simp only [Bool.false_eq_true, if_false, unrouted_perceived, false_iff]
        rintro ⟨heard, _⟩
        rw [heard.registered] at taken
        cases taken
      | true =>
        simp only [if_true, responded_perceived]
        constructor
        · rintro ⟨whole, spoiled⟩
          exact ⟨⟨taken, head_iff.mp inTime, whole⟩, spoiled⟩
        · rintro ⟨heard, spoiled⟩
          exact ⟨heard.whole, spoiled⟩
    · obtain ⟨d, _, ended⟩ := undisturbed_late endpoint inTime
      rw [ended, expired_perceived]
      simp only [Bool.false_eq_true, false_iff]
      rintro ⟨heard, _⟩
      exact inTime (head_iff.mpr heard.head)

end

/-! ### One carriage -/

/-- A carriage that is not let in leaves the world of the service alone. -/
theorem exchange_of_not_admitted (host : Host σ) (now : Instant) (peer : Option String) (c : Carriage)
    (tracker : Tracker) (world : σ) (turned : admitted? host peer c = none) :
    ∀ e, (exchange host now peer c tracker world).execution = some e → e.world = world := by
  intro e run
  unfold exchange at run
  cases passed : passage (Wire.encodeMessage c.message).length c.messageLimit host.messageLimit with
  | error status =>
    rw [passed] at run
    cases run
  | ok _ =>
    rw [passed] at run
    obtain rfl := Option.some.inj run
    unfold execute
    cases framed : checkFraming (framing ++ c.metadata) with
    | error status => rfl
    | ok _ =>
      dsimp only
      cases allowed : deadline? (framing ++ c.metadata) with
      | error status => rfl
      | ok limit =>
        dsimp only
        cases taken : c.message.inbound? host.boundary peer with
        | error status => rfl
        | ok request => simp [admitted?, limitOf, passed, framed, allowed, taken] at turned

/-- A carriage that is let in runs the service once. -/
theorem exchange_of_admitted (host : Host σ) (now : Instant) (peer : Option String) (c : Carriage)
    (tracker : Tracker) (world : σ) {request : Inbound} (let_in : admitted? host peer c = some request) :
    ∃ limit e, limitOf c = .ok limit ∧
      (exchange host now peer c tracker world).execution = some e ∧
      e.world = (host.service request world).2 ∧
      ∀ service, (exchange host now peer c tracker world).delivery.outcome service c.timeout =
        perceived c service host.messageLimit
          (undisturbed c.message.endpointText now limit (host.service request world).1) := by
  unfold exchange
  cases passed : passage (Wire.encodeMessage c.message).length c.messageLimit host.messageLimit with
  | error status => simp [admitted?, passed] at let_in
  | ok _ =>
    cases framed : checkFraming (framing ++ c.metadata) with
    | error status => simp [admitted?, passed, framed] at let_in
    | ok _ =>
      cases allowed : limitOf c with
      | error status => simp [admitted?, passed, framed, allowed] at let_in
      | ok limit =>
        cases taken : c.message.inbound? host.boundary peer with
        | error status => simp [admitted?, passed, framed, allowed, taken] at let_in
        | ok asked =>
          have same : asked = request := by simpa [admitted?, passed, framed, allowed, taken] using let_in
          subst same
          have read : deadline? (framing ++ c.metadata) = .ok limit := allowed
          refine ⟨limit, _, rfl, rfl, ?_, ?_⟩
          · simp only [execute, framed, read, taken]
          · intro service
            simp only [execute, framed, read, taken]
            rfl

/-- After the service has run, the request goes on over HTTP exactly when the caller misheard. -/
theorem exchange_fallsBack (host : Host σ) (now : Instant) (peer : Option String) (c : Carriage)
    (tracker : Tracker) (world : σ) {request : Inbound} (let_in : admitted? host peer c = some request)
    (service : String) :
    Client.fallsBack ((exchange host now peer c tracker world).delivery.outcome service c.timeout) =
      true ↔ Misheard now c host.messageLimit (host.service request world).1 := by
  obtain ⟨limit, e, allowed, _, _, heard⟩ :=
    exchange_of_admitted host now peer c tracker world let_in
  rw [heard service]
  exact undisturbed_fallsBack c service host.messageLimit _ allowed _

end Courier.Tunnel
