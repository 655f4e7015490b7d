import Courier.Retry
/-!
Attempts one after the other.  Whatever the outcomes would be, the attempts that are made are the first ones,
up to the first whose outcome is final or, if none is, to the last that is allowed; and what comes back is
the outcome of the last attempt made.
-/
namespace Courier

/-! ### The number of attempts -/

/-- The number of attempts that a policy stands for: for what may be repeated the first and as many more as
are asked for, as far as they are allowed; for everything else one. -/
def RetryPolicy.count (p : RetryPolicy) (method : String) (requested : Option UInt32) : Nat :=
  if method = getMethod then 1 + min (requested.getD p.defaultRetries).toNat p.maxRetries.toNat else 1

/-- The word has that number exactly if it does not wrap. -/
theorem RetryPolicy.attempts_eq_count_iff (p : RetryPolicy) (method : String) (requested : Option UInt32) :
    (p.attempts method requested).toNat = p.count method requested ↔
      (method = getMethod →
        min (requested.getD p.defaultRetries).toNat p.maxRetries.toNat < 4294967295) := by
  have least : ∀ a b : UInt32, (min a b).toNat = min a.toNat b.toNat := by
    intro a b
    have decided : (min a b).toNat = if a ≤ b then a.toNat else b.toNat :=
      apply_ite UInt32.toNat (a ≤ b) a b
    simp only [decided, UInt32.le_iff_toNat_le, Nat.min_def]
  unfold RetryPolicy.attempts RetryPolicy.count
  by_cases get : method = getMethod
  · have word := p.maxRetries.toNat_lt
    have one : (1 : UInt32).toNat = 1 := rfl
    rw [if_pos get, if_pos (beq_iff_eq.mpr get), UInt32.toNat_add, least, one, forall_prop_of_true get]
    omega
  · rw [if_neg get, if_neg (mt beq_iff_eq.mp get)]
    exact ⟨fun _ same => absurd same get, fun _ => rfl⟩

/-- Below the greatest word the count does not wrap. -/
theorem RetryPolicy.attempts_toNat {p : RetryPolicy} (bounded : p.maxRetries.toNat < 4294967295)
    (method : String) (requested : Option UInt32) :
    (p.attempts method requested).toNat = p.count method requested :=
  (p.attempts_eq_count_iff method requested).mpr fun _ => Nat.lt_of_le_of_lt (Nat.min_le_right ..) bounded

/-! ### Outcomes -/

/-- Outcomes that no attempt follows: an answer, unless it reports trouble of the server, and every fault
that does not come from the transport alone. -/
inductive Final : Outcome → Prop where
  | answered {reply : Reply} (outside : reply.status.code < 500 ∨ 599 < reply.status.code) :
      Final (.ok reply)
  | timeout (service : String) (limit : Duration) : Final (.error (.timeout service limit))
  | resolution (service detail : String) : Final (.error (.unavailable service .resolution detail))
  | closed (service detail : String) : Final (.error (.unavailable service .closed detail))
  | responded (service : String) (status : Nat) (body : ErrorBody) :
      Final (.error (.responded service status body))
  | unknown (service detail : String) : Final (.error (.unknown service detail))

theorem final_ok_iff (reply : Reply) :
    Final (.ok reply) ↔ reply.status.code < 500 ∨ 599 < reply.status.code :=
  ⟨fun | .answered outside => outside, .answered⟩

theorem isRetryable_eq_false_iff (o : Outcome) : isRetryable o = false ↔ Final o := by
  cases o with
  | ok reply =>
    rw [final_ok_iff, isRetryable, Http.Status.isServerError, Bool.and_eq_false_iff, decide_eq_false_iff_not,
      decide_eq_false_iff_not]
    omega
  | error f =>
    cases f with
    | unavailable service reason detail =>
      cases reason with
      | refused => exact ⟨nofun, nofun⟩
      | disconnected => exact ⟨nofun, nofun⟩
      | resolution => exact ⟨fun _ => .resolution service detail, fun _ => rfl⟩
      | closed => exact ⟨fun _ => .closed service detail, fun _ => rfl⟩
    | timeout service limit => exact ⟨fun _ => .timeout service limit, fun _ => rfl⟩
    | protocol service detail => exact ⟨nofun, nofun⟩
    | responded service status body => exact ⟨fun _ => .responded service status body, fun _ => rfl⟩
    | unknown service detail => exact ⟨fun _ => .unknown service detail, fun _ => rfl⟩

/-! ### The last attempt -/

/-- Of the attempts from `first` to `last`, number `k` is the one that settles the matter. -/
structure Settles (outcomes : Nat → Outcome) (first last k : Nat) : Prop where
  first_le : first ≤ k
  le_last : k ≤ last
  /-- Every earlier one is followed by another. -/
  passed : ∀ i, first ≤ i → i < k → ¬ Final (outcomes i)
  settled : Final (outcomes k) ∨ k = last

namespace Settles

variable {outcomes : Nat → Outcome} {first last k j : Nat}

theorem not_lt (h : Settles outcomes first last k) (h' : Settles outcomes first last j) : ¬ j < k := by
  intro earlier
  rcases h'.settled with final | rfl
  · exact h.passed j h'.first_le earlier final
  · exact Nat.not_lt.mpr h.le_last earlier

theorem unique (h : Settles outcomes first last k) (h' : Settles outcomes first last j) : j = k :=
  Nat.le_antisymm (Nat.not_lt.mp (h'.not_lt h)) (Nat.not_lt.mp (h.not_lt h'))

theorem here (fits : first ≤ last) (settled : Final (outcomes first) ∨ first = last) :
    Settles outcomes first last first :=
  ⟨Nat.le_refl _, fits, fun _ reached before => absurd before (Nat.not_lt.mpr reached), settled⟩

theorem later (passed : ¬ Final (outcomes first)) (h : Settles outcomes (first + 1) last k) :
    Settles outcomes first last k where
  first_le := Nat.le_of_succ_le h.first_le
  le_last := h.le_last
  passed i reached before := by
    rcases Nat.eq_or_lt_of_le reached with rfl | after
    · exact passed
    · exact h.passed i after before
  settled := h.settled

end Settles

/-! ### A run of attempts -/

/-- Attempts whose outcomes are settled beforehand; each writes its number down. -/
def recorded (outcomes : Nat → Outcome) (n : Nat) : StateM (List Nat) Outcome :=
  fun made => (outcomes n, made ++ [n])

theorem retryFrom_recorded (outcomes : Nat → Outcome) (left : Nat) : ∀ (n : Nat) (made : List Nat),
    ∃ k, Settles outcomes n (n + left) k ∧
      (retryFrom (recorded outcomes) n left).run made =
        (outcomes k, made ++ List.range' n (k + 1 - n)) := by
  induction left with
  | zero =>
    intro n made
    refine ⟨n, .here (Nat.le_refl n) (.inr rfl), ?_⟩
    rw [Nat.add_sub_cancel_left]
    rfl
  | succ left ih =>
    intro n made
    have step : (retryFrom (recorded outcomes) n (left + 1)).run made =
        (if isRetryable (outcomes n) then retryFrom (recorded outcomes) (n + 1) left
          else pure (outcomes n)).run (made ++ [n]) := rfl
    rw [step]
    cases again : isRetryable (outcomes n) with
    | false =>
      have final := (isRetryable_eq_false_iff _).mp again
      refine ⟨n, .here (Nat.le_add_right n _) (.inl final), ?_⟩
      rw [Nat.add_sub_cancel_left]
      rfl
    | true =>
      have passed : ¬ Final (outcomes n) := by
        rw [← isRetryable_eq_false_iff, again]
        exact Bool.noConfusion
      obtain ⟨k, settles, ran⟩ := ih (n + 1) (made ++ [n])
      rw [Nat.add_assoc, Nat.add_comm 1 left] at settles
      have reached := settles.first_le
      have numbers : List.range' n (k + 1 - n) = n :: List.range' (n + 1) (k + 1 - (n + 1)) := by
        have count : k + 1 - n = (k + 1 - (n + 1)) + 1 := by omega
        rw [count, List.range'_succ]
      refine ⟨k, settles.later passed, ?_⟩
      rw [if_pos rfl, ran, numbers, List.append_assoc]
      rfl

/-- For every policy whose count of attempts does not wrap, every method and every sequence of outcomes:
exactly one attempt of those allowed is the last, which is the first whose outcome is final, or the last
allowed.  The attempts up to it are made, in their order, and no others; its outcome stands. -/
theorem retry_settles (p : RetryPolicy) (bounded : p.maxRetries.toNat < 4294967295) (method : String)
    (requested : Option UInt32) (outcomes : Nat → Outcome) :
    let allowed := if method = "GET" then
        1 + min (requested.getD p.defaultRetries).toNat p.maxRetries.toNat
      else 1
    ∃ k, (∀ j, Settles outcomes 1 allowed j ↔ j = k) ∧
      (retry p method requested (recorded outcomes)).run [] = (outcomes k, List.range' 1 k) := by
  intro allowed
  have count : (p.attempts method requested).toNat = allowed :=
    RetryPolicy.attempts_toNat bounded method requested
  have some_attempt : 1 ≤ allowed := by
    dsimp only [allowed]
    split <;> omega
  obtain ⟨k, settles, ran⟩ := retryFrom_recorded outcomes (allowed - 1) 1 []
  rw [Nat.add_sub_cancel' some_attempt] at settles
  refine ⟨k, fun j => ⟨settles.unique, fun same => same ▸ settles⟩, ?_⟩
  rw [retry, count, ran]
  rfl

/-- Refused once, and then answered. -/
def recovering : Nat → Outcome
  | 1 => .error (.unavailable "ledger" .refused "")
  | _ => .ok ⟨.ok, .null, .http⟩

theorem recovering_settles : (({} : RetryPolicy).maxRetries.toNat < 4294967295) ∧
    (retry {} "GET" none (recorded recovering)).run [] = (.ok ⟨.ok, .null, .http⟩, [1, 2]) := by
  have bounded : (({} : RetryPolicy).maxRetries.toNat < 4294967295) := by decide
  obtain ⟨k, only, ran⟩ := retry_settles {} bounded "GET" none recovering
  have second : Settles recovering 1 3 2 := by
    refine .later nofun (.here (by decide) (.inl (.answered (.inl ?_))))
    decide
  obtain rfl := (only 2).mp second
  exact ⟨bounded, ran⟩

end Courier
