import Courier.Relay
import Courier.Proofs.Client.Calls
import Courier.Proofs.Http.Uri
import Courier.Tunnel.Intake
/-!
What the relay hands on.  The path that it is given comes decoded from the address it was called by, and goes
as it is into the address it calls; the pairs of the query are written anew.  So the target is asked for
that path exactly if it is `Forwardable`: relative, of characters that an address may hold, and without
anything to decode.
-/
namespace Courier

/-- The adapter takes the message for a request for this path, decoded, with these pairs. -/
def Tunnel.Message.AsksFor (m : Tunnel.Message) (path : String) (pairs : Form.Pairs) : Prop :=
  ∃ uri, m.endpointUri? = some uri ∧ Form.percentDecode (Text.utf8 uri.path) = Text.utf8 path ∧
    Form.decode (Text.utf8 (uri.query.getD "")) = pairs

namespace Relay

open Http.Uri (isPathChar untilQuery)

/-- A path of a service's versioned interface. -/
def below (version path : String) : String := "/api/" ++ version ++ "/" ++ path

structure Forwardable (version path : String) (pairs : Form.Pairs) : Prop where
  relative : Text.startsWith path "/" = false
  /-- No question mark and no fragment among others. -/
  legal : (below version path).toList.all isPathChar = true
  /-- No percent sign stands before two digits. -/
  literal : Form.percentDecode (Text.utf8 (below version path)) = Text.utf8 (below version path)
  short : (Form.withQuery (below version path) pairs).utf8ByteSize ≤ Http.Uri.lengthLimit

/-! ### The address of one call -/

theorem below_rooted (version path : String) : Text.startsWith (below version path) "/" = true := by
  rw [Text.startsWith_iff]
  simp [below]

theorem requestPath_rooted (e : Endpoint) (path : String) :
    ∃ rest, (e.requestPath path).toList = '/' :: rest := by
  have rooted : Text.startsWith (e.requestPath path) "/" = true := by
    unfold Endpoint.requestPath
    split
    · assumption
    · exact below_rooted e.apiVersion path
  obtain ⟨rest, slash⟩ := (Text.startsWith_iff _ "/").mp rooted
  exact ⟨rest, slash.symm⟩

/-- Pairs change nothing of what stands before a query. -/
theorem untilQuery_withQuery (path : String) (pairs : Form.Pairs) :
    untilQuery (Form.withQuery path pairs).toList = untilQuery path.toList := by
  cases pairs with
  | nil => rfl
  | cons p more =>
    have chars : (Form.withQuery path (p :: more)).toList =
        path.toList ++ '?' :: (Form.encode (p :: more)).toList := by
      simp [Form.withQuery]
    rw [chars, untilQuery, untilQuery, List.takeWhile_append]
    split
    · next whole =>
      have all : path.toList.takeWhile (fun c => c != '?' && c != '#') = path.toList :=
        (List.takeWhile_prefix _).eq_of_length whole
      rw [all]
      exact List.append_nil _
    · rfl

theorem withQuery_rooted {path : String} {rest : List Char} (slash : path.toList = '/' :: rest)
    (pairs : Form.Pairs) : ∃ more, (Form.withQuery path pairs).toList = '/' :: more := by
  cases pairs with
  | nil => exact ⟨rest, slash⟩
  | cons p others => exact ⟨_, by simp [Form.withQuery, slash]; rfl⟩

theorem length_below (version path : String) :
    (Text.utf8 path).length < (Text.utf8 (below version path)).length := by
  have start : (Text.utf8 "/api/").length = 5 := by decide
  rw [below, Text.utf8_append, Text.utf8_append, Text.utf8_append]
  simp only [List.length_append, start]
  omega

section

variable {e : Endpoint} {path : String} {pairs : Form.Pairs} {uri : Http.Uri}
  (parsed : Http.Uri.parse? (Form.withQuery (e.requestPath path) pairs) = some uri)
include parsed

/-- An accepted address is no longer than allowed; its path begins the path that was written. -/
theorem accepted_prefix : (Form.withQuery (e.requestPath path) pairs).utf8ByteSize ≤ Http.Uri.lengthLimit ∧
    uri.path.toList.all isPathChar = true ∧ uri.path.toList <+: (e.requestPath path).toList := by
  obtain ⟨_, slash⟩ := requestPath_rooted e path
  obtain ⟨_, slash'⟩ := withQuery_rooted slash pairs
  obtain ⟨short, whole, legal⟩ := Http.Uri.parse?_rooted_some slash' parsed
  rw [untilQuery_withQuery] at whole
  exact ⟨short, legal, whole ▸ List.takeWhile_prefix _⟩

/-- A path that decodes to one below the interface is that path, and was not absolute. -/
theorem forwardable_of_accepted
    (decoded : Form.percentDecode (Text.utf8 uri.path) = Text.utf8 (below e.apiVersion path)) :
    Forwardable e.apiVersion path pairs := by
  obtain ⟨short, legal, after, whole⟩ := accepted_prefix parsed
  have longest := Form.percentDecode_length (Text.utf8 uri.path)
  have parts : (Text.utf8 (e.requestPath path)).length =
      (Text.utf8 uri.path).length + (Text.encoded after).length := by
    rw [Text.utf8_eq, ← whole, Text.encoded_append, List.length_append, Text.utf8_eq]
  rw [decoded] at longest
  have relative : Text.startsWith path "/" = false := by
    by_contra absolute
    have itself : e.requestPath path = path := if_pos (by simpa using absolute)
    have shorter := length_below e.apiVersion path
    rw [itself] at parts
    omega
  have written : e.requestPath path = below e.apiVersion path := if_neg (by simp [relative])
  rw [written] at parts whole short
  have nothing : after = [] := by
    cases after with
    | nil => rfl
    | cons c more =>
      have some_byte : 0 < (String.utf8EncodeChar c).length := by
        rw [String.length_utf8EncodeChar]
        exact c.utf8Size_pos
      rw [Text.encoded_cons, List.length_append] at parts
      omega
  have same : uri.path = below e.apiVersion path := by
    rw [← String.toList_inj, ← whole, nothing, List.append_nil]
  rw [same] at legal decoded
  exact ⟨relative, legal, decoded, short⟩

end

theorem asksFor_iff (c : Call) :
    c.message.AsksFor (below c.endpoint.apiVersion c.request.path) c.request.query ↔
      Forwardable c.endpoint.apiVersion c.request.path c.request.query := by
  have text : c.message.endpointText = Form.withQuery (c.endpoint.requestPath c.request.path) c.request.query :=
    Text.lossy_utf8 _
  constructor
  · rintro ⟨uri, taken, decoded, _⟩
    rw [Tunnel.Message.endpointUri?, text] at taken
    exact forwardable_of_accepted (Option.filter_eq_some_iff.mp taken).1 decoded
  · intro ok
    have written : c.endpoint.requestPath c.request.path = below c.endpoint.apiVersion c.request.path :=
      if_neg (by simp [ok.relative])
    have rooted := below_rooted c.endpoint.apiVersion c.request.path
    obtain ⟨uri, parsed, path, read⟩ := Http.Uri.parse?_withQuery ok.legal rooted c.request.query ok.short
    refine ⟨uri, ?_, ?_, read⟩
    · rw [Tunnel.Message.endpointUri?, text, written, parsed, Option.filter_some, path, if_pos rooted]
    · rw [path]
      exact ok.literal

/-! ### The relay -/

/-- The pairs that the relay was asked with. -/
def pairsOf (r : Inbound) : Form.Pairs := Form.decode (Text.utf8 (r.uri.query.getD ""))

theorem addQuery_all (pairs : Form.Pairs) (q : Request) :
    (pairs.foldl (fun q p => q.addQuery p.1 p.2) q).path = q.path ∧
      (pairs.foldl (fun q p => q.addQuery p.1 p.2) q).query = q.query ++ pairs := by
  induction pairs generalizing q with
  | nil => exact ⟨rfl, (List.append_nil _).symm⟩
  | cons p more ih =>
    obtain ⟨path, query⟩ := ih (q.addQuery p.1 p.2)
    exact ⟨path, query.trans (List.append_assoc q.query [p] more)⟩

theorem handedOn_address (r : Inbound) (path : String) :
    (handedOn r path).path = path ∧ (handedOn r path).query = pairsOf r := by
  unfold handedOn pairsOf
  cases r.uri.query with
  | none =>
    dsimp only
    split <;> exact ⟨rfl, rfl⟩
  | some q =>
    obtain ⟨same, pairs⟩ := addQuery_all (Form.decode (Text.utf8 q)) { method := r.method, path := path }
    dsimp only
    split <;> exact ⟨same, pairs⟩

/-- The world moves as the client's act moves it, or not at all. -/
theorem withClient_within {σ α : Type} {R : σ → σ → Prop} (still : ∀ x, R x x) {act : Act σ α}
    (moves : Act.Within (fun a b => R a.world b.world) act) (name : String) (s : Relay σ) :
    R s.world (withClient name act s).2.world := by
  unfold withClient
  split
  · exact still _
  · next n registry _ =>
    unfold Registry.run
    cases registry.instances[n]? with
    | none => exact still _
    | some c => exact moves { client := c, metrics := s.metrics, world := s.world }

variable {σ : Type}

theorem relay_departs (w : Surroundings σ) {cs : List Capture} {service path : String}
    (named : Capture.texts cs = .ok [service, path]) (r : Inbound) (s : Relay (Watched σ)) :
    Client.Departs w r.currentContext (handedOn r path) s.world (relay w.watched cs r s).2.world := by
  have moves : Act.Within (Client.Sends w r.currentContext (handedOn r path))
      (Client.dispatch w.watched r.currentContext (handedOn r path)) := Client.dispatch_sends
  have run := withClient_within (fun _ => Client.Departs.still rfl) moves service s
  unfold relay
  rw [named]
  dsimp only
  split <;> next ran => rwa [ran] at run

/-- For everything that the relay sends over the tunnel. -/
theorem forwards_iff (w : Surroundings σ) {cs : List Capture} {service path : String}
    (named : Capture.texts cs = .ok [service, path]) (r : Inbound) (s : Relay (Watched σ)) :
    ∃ sent, (relay w.watched cs r s).2.world.2 = s.world.2 ++ sent ∧
      ∀ g d, .carried g d ∈ sent → ∃ c, Client.Makes w.watched r.currentContext (handedOn r path) c ∧
        g.message = c.message ∧
        (g.message.AsksFor (below c.endpoint.apiVersion path) (pairsOf r) ↔
          Forwardable c.endpoint.apiVersion path (pairsOf r)) := by
  obtain ⟨sent, record, each⟩ := relay_departs w named r s
  refine ⟨sent, record, fun g d member => ?_⟩
  obtain ⟨c, made, its⟩ := each _ member
  cases its with
  | carried written =>
    have message := Call.carriage?_message written
    have asks := asksFor_iff c
    rw [made.request, (handedOn_address r path).1, (handedOn_address r path).2] at asks
    exact ⟨c, made, message, message ▸ asks⟩

/-- A relay that may call one service, which is serving. -/
def beforeLedger : Relay (Watched Unit) where
  registry := { settings := { connections := ["ledger"] } }
  world := ((), [])

/-- What the relay's route captures. -/
def towards (raw : String) : List Capture := [⟨"service", "ledger".toList⟩, ⟨"path", raw.toList⟩]

def visit : Inbound where
  method := "GET"
  uri := ⟨none, none, "", some "q=a+b"⟩
  headers := []
  body := []

/-- The addresses of the messages among what departed. -/
def addresses (sent : List Departure) : List String :=
  sent.filterMap fun d => match d with
    | .carried g _ => some g.message.endpointText
    | .submitted _ _ => none

theorem carried_of_addresses {sent : List Departure} {text : String} (h : text ∈ addresses sent) :
    ∃ g d, .carried g d ∈ sent ∧ g.message.endpointText = text := by
  obtain ⟨departed, member, its⟩ := List.mem_filterMap.mp h
  cases departed with
  | carried g d => exact ⟨g, d, member, Option.some.inj its⟩
  | submitted sub d => cases its

/-- The whole way of `echo`, with a pair behind it. -/
theorem echo_is_forwarded :
    Capture.texts (towards "echo") = .ok ["ledger", "echo"] ∧
      ∃ g d, .carried g d ∈ (relay Surroundings.still.watched (towards "echo") visit beforeLedger).2.world.2 ∧
        g.message.AsksFor "/api/v1/echo" [("q", "a b")] := by
  have named : Capture.texts (towards "echo") = .ok ["ledger", "echo"] := by decide +kernel
  refine ⟨named, ?_⟩
  obtain ⟨sent, record, each⟩ := forwards_iff .still named visit beforeLedger
  have departed : addresses (relay Surroundings.still.watched (towards "echo") visit beforeLedger).2.world.2 =
      ["/api/v1/echo?q=a+b"] := by
    decide +kernel
  rw [record] at departed ⊢
  obtain ⟨g, d, member, _⟩ := carried_of_addresses (departed ▸ List.mem_singleton_self _)
  obtain ⟨c, made, _, asks⟩ := each g d (by simpa [beforeLedger] using member)
  obtain ⟨_, _, found⟩ := made.found
  have version : c.endpoint.apiVersion = "v1" := congrArg Endpoint.apiVersion (Except.ok.inj found).symm
  have pairs : pairsOf visit = [("q", "a b")] := by decide +kernel
  rw [version, pairs] at asks
  exact ⟨g, d, by simpa [beforeLedger] using member, asks.mpr
    { relative := by decide
      legal := by decide +kernel
      literal := by decide +kernel
      short := by decide +kernel }⟩

/-- A blank in the path makes an address that the adapter refuses. -/
theorem blank_is_not_forwarded :
    ¬ ∀ (w : Surroundings Unit) (cs : List Capture) (service path : String),
      Capture.texts cs = .ok [service, path] → ∀ (r : Inbound) (s : Relay (Watched Unit)),
      ∃ sent, (relay w.watched cs r s).2.world.2 = s.world.2 ++ sent ∧
        ∀ g d, .carried g d ∈ sent → ∃ c, Client.Makes w.watched r.currentContext (handedOn r path) c ∧
          g.message = c.message ∧ g.message.AsksFor (below c.endpoint.apiVersion path) (pairsOf r) := by
  intro all
  have named : Capture.texts (towards "fail/4%204") = .ok ["ledger", "fail/4 4"] := by decide +kernel
  obtain ⟨sent, record, each⟩ := all .still _ _ _ named visit beforeLedger
  have departed :
      addresses (relay Surroundings.still.watched (towards "fail/4%204") visit beforeLedger).2.world.2 =
        ["/api/v1/fail/4 4?q=a+b"] := by
    decide +kernel
  have refused : Http.Uri.parse? "/api/v1/fail/4 4?q=a+b" = none := by decide +kernel
  rw [record] at departed
  obtain ⟨g, d, member, text⟩ := carried_of_addresses (departed ▸ List.mem_singleton_self _)
  obtain ⟨c, _, _, uri, taken, _⟩ := each g d (by simpa [beforeLedger] using member)
  rw [Tunnel.Message.endpointUri?, text, refused] at taken
  cases taken

end Relay
end Courier
