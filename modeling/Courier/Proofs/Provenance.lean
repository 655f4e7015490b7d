import Courier.Proofs.Outbound.Texts
import Courier.Proofs.Token
import Courier.Proofs.Tunnel.Intake
/-!
Where the calling service in a request's context comes from: from the token that the request shows and from
nothing else.  A context that came along, a header that a context could be read from, the claims beside a
tunnelled message and the spelling of its header names all leave it alone.
-/
namespace Courier.Layer

/-- Visible values are legal, so dropping illegal ones takes no voucher away. -/
theorem Vouched.of_filter {identity : Identity} {value : Option Bytes} {claims : Fields}
    (h : Vouched identity (value.filter Http.isLegalValue) claims) : Vouched identity value claims := by
  cases h with
  | signed shown visible verified =>
    exact .signed (Option.eq_some_of_filter_eq_some shown) visible verified
  | unsigned missing =>
    refine .unsigned fun token claims present visible => missing token claims ?_ visible
    rw [present, Option.filter_some, if_pos (Http.isLegalValue_of_visible visible)]

/-- A good token that is shown vouches for its own claims. -/
theorem Vouched.eq_of_verified {identity : Identity} {token : String} {claims : ServiceClaims} {fields : Fields}
    (h : Vouched identity (some (Text.utf8 (bearerOpening ++ token))) fields)
    (visible : (Text.utf8 (bearerOpening ++ token)).all Http.isVisibleByte = true)
    (verified : Token.verify identity token = .ok claims) : fields = claims.fields := by
  generalize given : some (Text.utf8 (bearerOpening ++ token)) = value at h
  cases h with
  | signed shown _ verified' =>
    have same := Text.utf8_inj (Option.some.inj (given.trans shown))
    obtain rfl := (String.append_right_inj _).mp same
    cases verified.symm.trans verified'
    rfl
  | unsigned missing => exact absurd verified (missing token claims given.symm visible)

/-- For every request of either transport, a service behind the standard layers sees exactly the calling
service that the first authorization value vouches for.  For one that came over the tunnel this is the
message's own, in whatever case its name is spelled, and what the message says of the calling service
beside its headers changes nothing. -/
theorem callerService_provenance (identity : Identity) (fresh : String) :
    (∀ r : Inbound, ∃ r', Shows identity fresh r r' ∧
      Vouched identity (r.headers.get? "authorization") r'.currentContext.callerService) ∧
    (∀ (m : Tunnel.Message) (boundary : String) (peer : Option String) (r : Inbound),
      m.inbound? boundary peer = .ok r → Tunnel.SpelledOnce "authorization" m.headers →
      ∃ r', Shows identity fresh r r' ∧
        Vouched identity (Tunnel.spelledValue? "authorization" m.headers)
          r'.currentContext.callerService) ∧
    ∀ (σ : Type) (inner : Service σ) (m : Tunnel.Message) (claims : Option Struct) (boundary : String)
      (now : Instant) (metadata : Http.Headers) (peer : Option String) (cancel : Option Duration)
      (tracker : Tracker) (s : σ),
      Tunnel.execute (standard identity fresh inner) boundary now metadata peer
        { m with service := claims } cancel tracker s =
      Tunnel.execute (standard identity fresh inner) boundary now metadata peer m cancel tracker s := by
  have vouched : ∀ r : Inbound, ∃ r', Shows identity fresh r r' ∧
      Vouched identity (r.headers.get? "authorization") r'.currentContext.callerService := by
    intro r
    refine ⟨seen identity fresh r, standard_shows identity fresh r, ?_⟩
    rw [seen_callerService]
    exact callerService_vouched identity r.headers
  refine ⟨vouched, ?_, fun _ _ _ _ _ _ _ _ _ _ _ => rfl⟩
  intro m boundary peer r taken once
  obtain ⟨r', shows', signed⟩ := vouched r
  refine ⟨r', shows', .of_filter ?_⟩
  rwa [Tunnel.inbound?_headers taken, Tunnel.get?_inboundHeaders,
    Tunnel.get?_foldl_addHeader Tunnel.authorization_carried once] at signed

/-- A message that shows this token, and that claims beside its headers to come from somebody else. -/
def showing (token : String) : Tunnel.Message :=
  { Tunnel.Message.empty with
    method := "GET"
    endpoint := Text.utf8 "/inspect"
    headers := [("AUTHORIZATION", bearerOpening ++ token)]
    service := some [("iss", .string "auditor")] }

/-- Billing is believed for its token, whatever else the message says. -/
theorem billing_is_believed :
    let m := showing (Token.issue ⟨"billing", "shared"⟩ "ledger" 1700000000).1
    Tunnel.SpelledOnce "authorization" m.headers ∧
      ∃ r r', m.inbound? "part" none = .ok r ∧ Shows ⟨"ledger", "shared"⟩ "fresh" r r' ∧
        r'.currentContext.callerService = ServiceClaims.fields ⟨"billing", "ledger", 1700000000⟩ := by
  intro m
  have once : Tunnel.SpelledOnce "authorization" m.headers := List.length_filter_le ..
  obtain ⟨uri, addressed⟩ : ∃ uri, m.endpointUri? = some uri :=
    Option.isSome_iff_exists.mp (by decide +kernel)
  have taken : m.inbound? "part" none = .ok (m.requestTo "part" none uri) :=
    Tunnel.inbound?_iff.mpr ⟨by decide, uri, addressed, rfl⟩
  obtain ⟨r', shows, vouched⟩ :=
    (callerService_provenance ⟨"ledger", "shared"⟩ "fresh").2.1 m "part" none _ taken once
  refine ⟨once, _, r', taken, shows, ?_⟩
  have visible := Http.all_visible_append (by decide +kernel : (Text.utf8 bearerOpening).all _ = true)
    (Token.issue_visible ⟨"billing", "shared"⟩ "ledger" 1700000000)
  have verified : Token.verify ⟨"ledger", "shared"⟩ (Token.issue ⟨"billing", "shared"⟩ "ledger" 1700000000).1 =
      .ok ⟨"billing", "ledger", 1700000000⟩ :=
    (Token.verify_issue "billing" "ledger" "shared" "ledger" (by decide)).trans (if_pos rfl)
  rw [once.value (List.mem_singleton_self _) (by decide)] at vouched
  exact vouched.eq_of_verified visible verified

end Courier.Layer
