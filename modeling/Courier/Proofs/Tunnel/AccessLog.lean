import Courier.Proofs.Service.Logging
import Courier.Proofs.Tracker
import Courier.Proofs.Tunnel.Execution
import Courier.Proofs.Tunnel.Intake
/-!
One access record for each call that was served.  For a call of the tunnel it is written where the tunnel
ends, whether the call is answered, turned away, late or dropped, and the router that runs the call stays
silent; for any other request it is written by the router.  A call of the tunnel that is no longer going on
counts no more among the calls under way.
-/
namespace Courier.Tunnel

variable {σ : Type}

/-- The status that the log is to show for a call that came to an end after `elapsed`, with the deadline
that was accepted for it. -/
inductive LoggedAs (limit : Option Duration) (elapsed : Duration) : CallEnd → Nat → Prop where
  | answered (body : Bytes) (status : Http.Status) :
      LoggedAs limit elapsed (.answered ⟨body, status.code⟩) status.code
  | failed {s : Rpc.Status} {n : Nat} (known : Rpc.httpStatus? s.code.number = some n) :
      LoggedAs limit elapsed (.failed s) n
  | dropped_late {d : Duration} (given : limit = some d) (over_it : d.nanos ≤ elapsed.nanos) :
      LoggedAs limit elapsed .dropped 504
  | dropped (within : ∀ d, limit = some d → elapsed.nanos < d.nanos) : LoggedAs limit elapsed .dropped 499

theorem failed_loggedAs (limit : Option Duration) (elapsed : Duration) (s : Rpc.Status) :
    LoggedAs limit elapsed (.failed s) (loggedStatus limit elapsed (.failed s)) := by
  obtain ⟨n, known⟩ : ∃ n, Rpc.httpStatus? s.code.number = some n := by
    cases s.code <;> exact ⟨_, rfl⟩
  rw [loggedStatus, known]
  exact .failed known

theorem dropped_loggedAs (limit : Option Duration) (elapsed : Duration) :
    LoggedAs limit elapsed .dropped (loggedStatus limit elapsed .dropped) := by
  cases given : limit with
  | none => exact .dropped nofun
  | some d =>
    simp only [loggedStatus, Option.any_some]
    split
    · next late => exact .dropped_late rfl (by simpa [Duration.le] using late)
    · next early =>
      refine .dropped fun _ same => ?_
      cases same
      simpa [Duration.le] using early

theorem ends_loggedAs {endpoint : String} {now : Instant} {given : Option Duration} {ending : Ending}
    {ended : CallEnd × Option Duration} (ends : Ends endpoint now given ending ended)
    (calm : ending ≠ .panicked) (finished : ended.1 ≠ .pending) (limit : Option Duration)
    (elapsed : Duration) : LoggedAs limit elapsed ended.1 (loggedStatus limit elapsed ended.1) := by
  cases ends with
  | panicked => exact absurd rfl calm
  | silent => exact absurd rfl finished
  | expired _ _ _ => exact failed_loggedAs limit elapsed _
  | unrouted _ _ => exact failed_loggedAs limit elapsed _
  | @responded v _ _ =>
    unfold responded at finished ⊢
    cases bodyEnd : v.bodyEnd with
    | complete => exact .answered v.response.body v.response.status
    | broken detail => exact failed_loggedAs limit elapsed _
    | endless =>
      rw [bodyEnd] at finished
      exact absurd rfl finished

section

variable (service : Service σ) (boundary : String) (now : Instant) (metadata : Http.Headers)
  (peer : Option String) (m : Message) (cancel : Option Duration) (tracker : Tracker) (world : σ)

theorem execute_loggedAs (calm : service.Calm)
    (limit : Option Duration) (elapsed : Duration) :
    let e := execute service boundary now metadata peer m cancel tracker world
    e.ending ≠ .pending → LoggedAs limit elapsed e.ending (loggedStatus limit elapsed e.ending) := by
  intro e finished
  have concluded : Concludes service boundary now peer m world metadata e.ending := execute_concludes ..
  generalize e.ending = ended at concluded finished ⊢
  cases concluded with
  | refused _ => exact failed_loggedAs limit elapsed _
  | unread _ => exact failed_loggedAs limit elapsed _
  | dropped => exact dropped_loggedAs limit elapsed
  | @ran _ request _ ends => exact ends_loggedAs ends (calm request world) finished limit elapsed

/-- A call whose peer goes away at some time does end. -/
theorem execute_finishes (c : Duration) :
    (execute service boundary now metadata peer m (some c) tracker world).ending ≠ .pending := by
  have executed := execute_executed service boundary now peer m (some c) tracker world metadata
  generalize execute service boundary now metadata peer m (some c) tracker world = e at executed ⊢
  cases executed with
  | refused _ => nofun
  | unread _ _ _ => nofun
  | @ran limit request _ _ _ =>
    have ends := undisturbed_ends m.endpointText now limit (service request world).1
    change (dropAfter (some c) _).1 ≠ _
    rcases dropAfter_cases (some c) (undisturbed m.endpointText now limit (service request world).1) with
      ⟨t, timed, _, same⟩ | ⟨_, _, _, same⟩ | ⟨none, _, _⟩
    · rw [same]
      exact ends.not_pending timed
    · rw [same]
      nofun
    · cases none

/-- A call that is no longer going on has left the tracker if it entered, and counts no more: neither now,
nor if others come, go and are swept meanwhile. -/
structure Gone (e : Execution σ) : Prop where
  untouched : e.entered = false → e.tracker = tracker
  left : e.entered = true → e.tracker = (tracker.enter now peer).leave (now + e.elapsed.nanos) peer
  agrees : tracker.Agrees e.tracker
  meanwhile : ∀ others, Table.Ordered tracker.peers → tracker.CanMoves others →
    (tracker.moves others).Agrees
      (((tracker.enter now peer).moves others).leave (now + e.elapsed.nanos) peer)

theorem execute_gone :
    let e := execute service boundary now metadata peer m cancel tracker world
    e.ending ≠ .pending → Gone now peer tracker e := by
  intro e finished
  have executed : Executed service boundary now peer m cancel tracker world metadata e :=
    execute_executed ..
  have meanwhile := fun others (ordered : Table.Ordered tracker.peers) (can : tracker.CanMoves others) =>
    Tracker.enter_moves_leave ordered can now (now + e.elapsed.nanos) peer
  clear_value e
  have left_again : ∀ t, tracker.Agrees ((tracker.enter now peer).leave t peer) :=
    fun t => (Tracker.Beside.of_enter tracker now peer).leave t
  cases executed with
  | refused _ => exact ⟨fun _ => rfl, nofun, ⟨rfl, fun _ => rfl⟩, meanwhile⟩
  | unread _ _ _ => exact ⟨nofun, fun _ => rfl, left_again now, meanwhile⟩
  | @ran limit request _ _ _ =>
    have left : (course service now limit peer m cancel tracker world request).tracker =
        (tracker.enter now peer).leave
          (now + (course service now limit peer m cancel tracker world request).elapsed.nanos) peer := by
      unfold course at finished ⊢
      dsimp only at finished ⊢
      split
      · next pending => exact absurd pending finished
      · rfl
    exact ⟨nofun, fun _ => left, left ▸ left_again _, meanwhile⟩

end

/-- For every router whose handlers write nothing into the log and that does not panic, behind any of the
library's layers, and for every call: if its peer goes away at some time, the call ends; once it has ended,
by itself or by being dropped, there is exactly one record of it, by the tunnel's end, with the status that
belongs to its end, and the tracker counts the call no more.  Behind the standard layers there is exactly
one record of every other request that gets a response, by the router. -/
theorem served_logs_once (router : Router σ) (unlogged : router.All (Service.Each Unlogged)) {layer : Layer σ}
    (stack : Layer.Stack layer)
    (calm : ((router.layered layer).withFallback unregistered).service.Calm) :
    (∀ boundary now metadata peer m cancel tracker world,
      let e := execute ((router.layered layer).withFallback unregistered).service boundary now metadata peer
        m cancel tracker world
      (∀ c, cancel = some c → e.ending ≠ .pending) ∧
        (e.ending ≠ .pending →
          (∃ a, e.records = [a] ∧ a.transport = .tunnel ∧ a = record m peer a.status e.elapsed ∧
            LoggedAs (allowance metadata) e.elapsed e.ending a.status) ∧
          Gone now peer tracker e)) ∧
    ∀ identity fresh r s v, r.tunneled = false →
      ((router.layered (Layer.standard identity fresh)).service r s).1 = .served v →
      ∃ a : AccessRecord, v.records = [a] ∧ a.Describes r v := by
  constructor
  · intro boundary now metadata peer m cancel tracker world e
    refine ⟨fun c given => ?_, fun finished => ⟨?_, execute_gone _ _ _ _ _ _ _ _ _ finished⟩⟩
    · subst given
      exact execute_finishes _ _ _ _ _ _ _ _ c
    have discreet : ((router.layered layer).withFallback unregistered).service.Each Discreet := by
      refine ((unlogged.layered fun _ => stack.discreet).withFallback ?_).service_each discreet_steady
      intro r s v served _
      cases served
      rfl
    obtain ⟨before, records, heard⟩ := execute_records
      ((router.layered layer).withFallback unregistered).service boundary now metadata peer m cancel tracker
      world
    have nothing : before = [] := by
      refine List.eq_nil_iff_forall_not_mem.mpr fun a member => ?_
      obtain ⟨request, v, taken, served, written⟩ := heard a member
      rw [discreet request world v served (inbound?_tunneled taken)] at written
      cases written
    change e.records = before ++ recordsOf m peer (allowance metadata) e.elapsed e.ending at records
    rw [nothing, List.nil_append, recordsOf_ended finished] at records
    exact ⟨_, records, rfl, rfl, execute_loggedAs _ _ _ _ _ _ _ _ _ calm _ _ finished⟩
  · intro identity fresh r s v plain served
    have logged : (router.layered (Layer.standard identity fresh)).service.Each LoggedOnce :=
      (unlogged.layered fun _ => Layer.standard_loggedOnce identity fresh).service_each loggedOnce_steady
    exact logged r s v served plain

/-- One route, whose body takes its time. -/
def streaming : Router Unit where
  routes := [{ pattern := [.literal "stream"], methods := .get
               handler := fun _ _ x =>
                (.served { response := .empty .ok, bodyDelay := .ofMillis 10 }, x) }]

def streamed : Message := { Message.empty with method := "GET", endpoint := Text.utf8 "/stream" }

theorem streaming_unlogged : streaming.All (Service.Each Unlogged) where
  handlers := by
    intro route member cs r s v served
    obtain rfl := List.mem_singleton.mp member
    cases served
    rfl
  refusals := by
    intro route member r s v served
    obtain rfl := List.mem_singleton.mp member
    cases served
    rfl
  fallback := by
    intro r s v served
    cases served
    rfl

/-- Dropped in the middle of the body, later than its deadline. -/
theorem streaming_logs_once :
    let service := ((streaming.layered (Layer.standard ⟨"ledger", "s"⟩ "fresh")).withFallback
      unregistered).service
    let metadata := framing ++ [(Rpc.Deadline.header, Text.utf8 "2m")]
    let e := execute service "part" 0 metadata (some "peer") streamed (some (.ofMillis 3)) {} ()
    streaming.All (Service.Each Unlogged) ∧
      Layer.Stack (Layer.standard ⟨"ledger", "s"⟩ "fresh" : Layer Unit) ∧ service.Calm ∧
      e.ending ≠ .pending ∧
      (∃ a, e.records = [a] ∧ a.transport = .tunnel ∧
        a = record streamed (some "peer") a.status e.elapsed ∧
        LoggedAs (allowance metadata) e.elapsed e.ending a.status) ∧
      Gone 0 (some "peer") {} e := by
  intro service metadata e
  have stack := Layer.standard_stack (σ := Unit) ⟨"ledger", "s"⟩ "fresh"
  have calm : service.Calm := by
    have layered := streaming_unlogged.layered (L := Service.Calm) fun inner _ =>
      Layer.standard_calm ⟨"ledger", "s"⟩ "fresh" inner
    have found_nothing : (unregistered : Service Unit).Calm := by
      intro r s panicked
      cases panicked
    exact (layered.withFallback found_nothing).service_calm
  obtain ⟨ends, logs⟩ := (served_logs_once streaming streaming_unlogged stack calm).1 "part" 0 metadata
    (some "peer") streamed (some (.ofMillis 3)) {} ()
  have finished := ends _ rfl
  exact ⟨streaming_unlogged, stack, calm, finished, logs finished⟩

end Courier.Tunnel
