import Courier.Proofs.Tunnel.Hearing
import Courier.Proofs.Tunnel.Intake
/-!
What the log of a call says is what its caller is told.  The end of the tunnel that runs the call logs one
status and sends back a response, or a code and a text; the caller reads the response, or makes a fault of
the code and the text.  Both come to the same status, and such a fault never sends the request over HTTP,
provided that the call is framed as it should be and no body breaks off: those two are complained of in
words that the caller takes for trouble of the tunnel.
-/
namespace Courier.Tunnel

variable {σ : Type}

/-- The caller is told of this status, under whatever name it knows the service, however long it was ready
to wait and however long it has waited. -/
def Tells (status : Nat) : CallEnd → Prop
  | .answered reply => ∀ service, ∃ r, reply.outcome service = .ok r ∧ r.status.code = status
  | .failed s => ∀ service deadline elapsed,
      (s.fault service deadline elapsed).status.code = status ∧
        (s.fault service deadline elapsed).allowsFallback = false
  | _ => True

/-- A status that a caller takes for what its code says. -/
structure Candid (s : Rpc.Status) : Prop where
  bare : s = .plain s.code s.message
  failed : s.code ≠ .ok
  running : s.code ≠ .cancelled
  there : s.code ≠ .unavailable
  unbroken : s.isProtocolFailure = false

theorem candid_untimed : Candid (.plain .outOfRange "invalid deadline") :=
  ⟨rfl, by decide, by decide, by decide, by decide⟩

theorem candid_unread (complaint : String) : Candid (.plain .invalidArgument ("invalid " ++ complaint)) :=
  ⟨rfl, nofun, nofun, nofun, Rpc.Status.invalid_isProtocolFailure complaint⟩

theorem candid_expired (d : Duration) : Candid (expired d) := ⟨rfl, nofun, nofun, nofun, rfl⟩

theorem candid_unrouted (endpoint : String) : Candid (unrouted endpoint) := by
  refine ⟨rfl, nofun, nofun, nofun, ?_⟩
  rw [unrouted, String.append_assoc]
  exact Rpc.Status.unregistered_isProtocolFailure _

/-- Such a status is logged as what the caller makes of it. -/
theorem Candid.tells {s : Rpc.Status} (candid : Candid s) (limit : Option Duration) (elapsed : Duration) :
    Tells (loggedStatus limit elapsed (.failed s)) (.failed s) := by
  obtain ⟨bare, failed, running, there, unbroken⟩ := candid
  intro service deadline waited
  rw [bare] at unbroken
  have known := Rpc.Status.plain_fault_status failed running unbroken service deadline waited
  have stays := Rpc.Status.plain_fault_allowsFallback there s.message service deadline waited
  rw [← bare] at known stays
  refine ⟨?_, stays.trans (bare ▸ unbroken)⟩
  rw [loggedStatus, known, Option.getD_some]

/-- A response has a status of HTTP, so a reply is never refused for its number. -/
theorem answered_tells (limit : Option Duration) (elapsed : Duration) (body : Bytes) (status : Http.Status) :
    Tells (loggedStatus limit elapsed (.answered ⟨body, status.code⟩)) (.answered ⟨body, status.code⟩) := by
  intro service
  exact ⟨_, reply_outcome service body status, rfl⟩

/-- A service whose bodies do not break off. -/
def Unbroken (service : Service σ) : Prop :=
  ∀ request s v, (service request s).1 = .served v → ∀ detail, v.bodyEnd ≠ .broken detail

theorem ends_tells {endpoint : String} {now : Instant} {given : Option Duration} {ending : Ending}
    {ended : CallEnd × Option Duration} (ends : Ends endpoint now given ending ended)
    (unbroken : ∀ v, ending = .served v → ∀ detail, v.bodyEnd ≠ .broken detail)
    (limit : Option Duration) (elapsed : Duration) :
    Tells (loggedStatus limit elapsed ended.1) ended.1 := by
  cases ends with
  | panicked => exact trivial
  | silent => exact trivial
  | expired _ _ _ => exact (candid_expired _).tells limit elapsed
  | unrouted _ _ => exact (candid_unrouted endpoint).tells limit elapsed
  | @responded v _ _ =>
    unfold responded
    cases bodyEnd : v.bodyEnd with
    | complete => exact answered_tells limit elapsed _ _
    | endless => exact trivial
    | broken detail => exact absurd bodyEnd (unbroken v rfl detail)

/-- However an execution of a framed call ends, its end tells of the status that is logged. -/
theorem execute_tells {service : Service σ} (boundary : String) (now : Instant) {metadata : Http.Headers}
    (peer : Option String) (m : Message) (cancel : Option Duration) (tracker : Tracker) (world : σ)
    (framed : checkFraming metadata = .ok ()) (unbroken : Unbroken service) (limit : Option Duration)
    (elapsed : Duration) :
    let e := execute service boundary now metadata peer m cancel tracker world
    Tells (loggedStatus limit elapsed e.ending) e.ending := by
  intro e
  have concluded : Concludes service boundary now peer m world metadata e.ending := execute_concludes ..
  generalize e.ending = ended at concluded ⊢
  cases concluded with
  | refused turned =>
    cases turned with
    | unframed turned =>
      rw [framed] at turned
      cases turned
    | untimed _ turned =>
      rw [deadline?_error turned]
      exact candid_untimed.tells _ _
  | unread unread =>
    obtain ⟨complaint, rfl⟩ := inbound?_error unread
    exact (candid_unread complaint).tells _ _
  | dropped => exact trivial
  | @ran _ request _ ends =>
    exact ends_tells ends (fun v served => unbroken request world v served) limit elapsed

/-- For every service whose bodies do not break off and every call that is framed as it should be, whatever
its deadline, its message and its time: unless the call is still going on, the last access record is the
call's own, and the caller is told of the status in it.  An answer is read as a reply with this status; a
failure is taken for a fault with this status, and for none that goes over HTTP. -/
theorem verdict_agrees (service : Service σ) (boundary : String) (now : Instant) (metadata : Http.Headers)
    (peer : Option String) (m : Message) (cancel : Option Duration) (tracker : Tracker) (world : σ)
    (framed : checkFraming metadata = .ok ()) (unbroken : Unbroken service) :
    let e := execute service boundary now metadata peer m cancel tracker world
    e.ending ≠ .pending → ∃ a, e.records.getLast? = some a ∧
      a = record m peer a.status e.elapsed ∧ Tells a.status e.ending := by
  intro e finished
  obtain ⟨before, records, _⟩ :=
    execute_records service boundary now metadata peer m cancel tracker world
  have told := execute_tells boundary now peer m cancel tracker world framed unbroken
    (allowance metadata) e.elapsed
  change e.records = before ++ recordsOf m peer (allowance metadata) e.elapsed e.ending at records
  rw [recordsOf_ended finished] at records
  refine ⟨record m peer (loggedStatus (allowance metadata) e.elapsed e.ending) e.elapsed, ?_, rfl, told⟩
  rw [records, List.getLast?_concat]

/-- A service that creates whatever it is asked for, after a while. -/
def creating : Service Unit := fun _ x =>
  (.served { response := .empty ⟨201, by decide, by decide⟩, delay := .ofMillis 5 }, x)

def posted : Message := { Message.empty with method := "post", endpoint := Text.utf8 "/notes" }

theorem creating_verdict_agrees :
    let e := execute creating "part" 0 (framing ++ [(Rpc.Deadline.header, Text.utf8 "1S")]) (some "peer")
      posted none {} ()
    checkFraming (framing ++ [(Rpc.Deadline.header, Text.utf8 "1S")]) = .ok () ∧ Unbroken creating ∧
      e.ending ≠ .pending ∧ ∃ a, e.records.getLast? = some a ∧
        a = record posted (some "peer") a.status e.elapsed ∧ Tells a.status e.ending := by
  intro e
  have framed : checkFraming (framing ++ [(Rpc.Deadline.header, Text.utf8 "1S")]) = .ok () := by
    decide +kernel
  have unbroken : Unbroken creating := by
    intro request s v served detail broken
    cases served
    cases broken
  have finished : e.ending ≠ .pending := by
    have other : e.ending.ctorIdx ≠ CallEnd.pending.ctorIdx := by decide +kernel
    exact fun pending => other (congrArg CallEnd.ctorIdx pending)
  exact ⟨framed, unbroken, finished,
    verdict_agrees creating "part" 0 _ (some "peer") posted none {} () framed unbroken finished⟩

end Courier.Tunnel
