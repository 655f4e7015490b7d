import Courier.Proofs.Client.Dispatch
import Courier.Proofs.Rpc.Status
/-!
Failures handed over and failures raised.  One outcome can be settled for a request that wants failures as
data and for one that wants them raised; both learn of the same success, or of the same failure, and both
are counted once.
-/
namespace Courier.Client

variable {service : String} {t : Transport} {o : Outcome}

/-- The reply that an outcome is handed over as. -/
def replyOf (t : Transport) : Outcome → Reply
  | .ok reply => reply
  | .error f => .ofFault f t

/-- Nothing is raised for a request that does not ask for it. -/
@[simp] theorem raise_false (service : String) (o : Outcome) : raise service false o = o := by
  cases o <;> rfl

@[simp] theorem handOver_false (t : Transport) (o : Outcome) : handOver false t o = .ok (replyOf t o) := by
  cases o <;> rfl

@[simp] theorem handOver_true (t : Transport) (o : Outcome) : handOver true t o = o := by
  cases o <;> rfl

/-- A reply that reports no failure is left as it is. -/
theorem raise_fair {reply : Reply} (fair : reply.status.code < 400) :
    raise service true (.ok reply) = .ok reply := by
  have quiet : reply.status.isFailure = false := decide_eq_false (Nat.not_le.mpr fair)
  simp only [raise, Bool.true_and, quiet, Bool.false_eq_true, if_false]

theorem raise_failed {reply : Reply} (failed : 400 ≤ reply.status.code) : raise service true (.ok reply) =
    .error (.responded service reply.status.code (ErrorBody.ofJson reply.body)) := by
  have loud : reply.status.isFailure = true := decide_eq_true failed
  simp only [raise, Bool.true_and, loud, if_true]

/-- A response that is raised as a fault shows its own status. -/
theorem responded_status (status : Http.Status) (body : ErrorBody) :
    (Fault.responded service status.code body).status = status := by
  rw [Fault.status, Http.Status.ofNat?_code, Option.getD_some]

/-- The outcome failed: there is a fault, or the reply reports one. -/
inductive Failed : Outcome → Prop where
  | reported {reply : Reply} (failure : 400 ≤ reply.status.code) : Failed (.ok reply)
  | fault (f : Fault) : Failed (.error f)

/-- One outcome as it is handed over, and as it is raised. -/
structure Alternatives (o : Outcome) (given : Reply) (raised : Outcome) : Prop where
  /-- What is not raised is the reply that is handed over, and reports no failure. -/
  kept : ∀ reply, raised = .ok reply → reply.status.code < 400 ∧ given = reply
  status : ∀ f, raised = .error f → given.status = f.status
  /-- A failure shows one body either way, unless the reply that reported it has none that is an object. -/
  body : ∀ f, raised = .error f → (∀ reply, o = .ok reply → reply.body.isObject = true) →
    given.body = f.body
  /-- Only failures are raised, and all of them. -/
  failed : (∃ f, raised = .error f) ↔ Failed o

theorem alternatives (service : String) (t : Transport) (o : Outcome) :
    Alternatives o (replyOf t o) (raise service true o) := by
  cases o with
  | error f =>
    have raised : raise service true (.error f) = .error f := rfl
    rw [raised]
    refine ⟨nofun, ?_, ?_, ⟨fun _ => .fault f, fun _ => ⟨f, rfl⟩⟩⟩
    · rintro g ⟨⟩
      rfl
    · rintro g ⟨⟩ _
      rfl
  | ok reply =>
    rcases Nat.lt_or_ge reply.status.code 400 with fair | failure
    · rw [raise_fair fair]
      refine ⟨?_, nofun, nofun, ?_⟩
      · rintro given ⟨⟩
        exact ⟨fair, rfl⟩
      · constructor
        · rintro ⟨f, ⟨⟩⟩
        · rintro (failure | _)
          exact absurd fair (Nat.not_lt.mpr failure)
    · rw [raise_failed failure]
      refine ⟨nofun, ?_, ?_, ⟨fun _ => .reported failure, fun _ => ⟨_, rfl⟩⟩⟩
      · rintro f ⟨⟩
        exact (responded_status reply.status _).symm
      · rintro f ⟨⟩ objects
        exact (if_pos (objects reply rfl)).symm

/-- Two requests that differ only in whether failures are raised, and one outcome for both: the first always
gets a reply, the second what the reply tells, as it is or as a fault.  Each is counted once under the
client's target and the transport, and leaves all but the counts as it was. -/
theorem conclude_agrees {σ : Type} (t : Transport) (r : Request) (o : Outcome) (s : Session σ) :
    ∃ given raised counts counts',
      Act.on (conclude t { r with propagateError := false } o) s =
        (.ok (.ok given), { s with metrics := counts }) ∧
      Act.on (conclude t { r with propagateError := true } o) s =
        (.ok raised, { s with metrics := counts' }) ∧
      Alternatives o given raised ∧
      CountedOnce s.client.name t (outcomeLabel o) s.metrics counts ∧
      CountedOnce s.client.name t (outcomeLabel raised) s.metrics counts' := by
  refine ⟨replyOf t o, raise s.client.name true o, _, _, ?_, ?_, alternatives s.client.name t o,
    countOutcome_once _ t o _, countOutcome_once _ t _ _⟩
  · rw [conclude_on, concluded, raise_false, handOver_false]
  · rw [conclude_on, concluded, handOver_true]

end Courier.Client
