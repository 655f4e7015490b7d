import Courier.Scope.Schedule
/-!
Request scopes side by side, over every schedule of their turns.  The state of a task is its own, and so is
the copy of the context in it.  What becomes of a task is settled by the context that it started with, by its
own work and by its own polls, each of which comes before or after the moment when its scope was stopped;
`Child.fate` says how.  Whatever else happens, in its scope or in another, is nothing to it.
-/
namespace Courier

namespace ScopeTurn

variable {σ : Type}

/-- The scope that a turn concerns. -/
def scope : ScopeTurn σ → Nat
  | .spawn i _ | .cancel i | .drop i | .poll i _ _ => i

/-- The turn cancels or drops the scope. -/
def stops (i : Nat) : ScopeTurn σ → Bool
  | .cancel j | .drop j => j == i
  | _ => false

/-- The turn starts a task, if the scope is there. -/
def starts (i : Nat) : ScopeTurn σ → Bool
  | .spawn j _ => j == i
  | _ => false

/-- The polls of a child in these turns, each with whether its scope was stopped by then. -/
def polls (i n : Nat) (stopped : Bool) : List (ScopeTurn σ) → List (Bool × Look)
  | [] => []
  | .poll j m look :: rest =>
    if j = i ∧ m = n then (stopped, look) :: polls i n stopped rest else polls i n stopped rest
  | t :: rest => polls i n (stopped || t.stops i) rest

variable {i n : Nat} {t : ScopeTurn σ}

theorem polls_cons (stopped : Bool) (t : ScopeTurn σ) (rest : List (ScopeTurn σ)) :
    polls i n stopped (t :: rest) = polls i n stopped [t] ++ polls i n (stopped || t.stops i) rest := by
  cases t with
  | spawn j start | cancel j | drop j => rfl
  | poll j m look =>
    simp only [polls, stops, Bool.or_false]
    split <;> rfl

/-- A turn that is not a poll of the child. -/
theorem polls_of_ne (stopped : Bool) (other : ∀ look, t ≠ .poll i n look) : polls i n stopped [t] = [] := by
  cases t with
  | spawn j start | cancel j | drop j => rfl
  | poll j m look =>
    refine if_neg ?_
    rintro ⟨rfl, rfl⟩
    exact other look rfl

theorem polls_self (stopped : Bool) (look : Look) :
    polls i n stopped [(.poll i n look : ScopeTurn σ)] = [(stopped, look)] := if_pos ⟨rfl, rfl⟩

theorem ne_poll_of_scope (elsewhere : t.scope ≠ i) (look : Look) : t ≠ .poll i n look := by
  rintro rfl
  exact elsewhere rfl

theorem stops_elsewhere (elsewhere : t.scope ≠ i) : t.stops i = false := by
  cases t with
  | spawn j start | poll j m look => rfl
  | cancel j | drop j => exact beq_eq_false_iff_ne.mpr elsewhere

theorem starts_elsewhere (elsewhere : t.scope ≠ i) : t.starts i = false := by
  cases t with
  | cancel j | drop j | poll j m look => rfl
  | spawn j start => exact beq_eq_false_iff_ne.mpr elsewhere

end ScopeTurn

namespace Child

variable {σ α : Type} {work : σ → Poll σ α}

/-- What becomes of running work that is polled like this.  In a scope that was not stopped it takes a step
with each poll, until it is done or fails.  In a stopped scope the first poll is the last: where the signal is
looked at first the child ends without a step, and otherwise after one step in any case. -/
def fate (work : σ → Poll σ α) : σ → List (Bool × Look) → Child σ α
  | x, [] => .running x
  | x, (stopped, look) :: rest =>
    match stopped, look, work x with
    | true, .signal, _ => .cancelled
    | _, _, .ready v => .done v
    | _, _, .failed => .failed
    | true, .work, .pending _ => .cancelled
    | false, _, .pending y => fate work y rest

/-- A child after these polls; once it has ended nothing becomes of it any more. -/
def after (work : σ → Poll σ α) (c : Child σ α) (ps : List (Bool × Look)) : Child σ α :=
  match c with
  | .running x => fate work x ps
  | ended => ended

/-- What the handle of a child resolves to, once it does. -/
def result? : Child σ α → Option (Except Unit (Option α))
  | .running _ => none
  | .done v => some (.ok (some v))
  | .failed => some (.error ())
  | .cancelled => some (.ok none)

theorem running_of_result? {c : Child σ α} (waits : c.result? = none) : ∃ x, c = .running x := by
  cases c with
  | running x => exact ⟨x, rfl⟩
  | done v | failed | cancelled => cases waits

@[simp] theorem after_nil (c : Child σ α) : c.after work [] = c := by
  cases c <;> rfl

/-- A child whose handle has resolved stays what it is. -/
theorem after_of_result? {c : Child σ α} {o : Except Unit (Option α)} (ended : c.result? = some o)
    (ps : List (Bool × Look)) : c.after work ps = c := by
  cases c with
  | running x => cases ended
  | done v | failed | cancelled => rfl

theorem after_cons (c : Child σ α) (p : Bool × Look) (rest : List (Bool × Look)) :
    c.after work (p :: rest) = (c.after work [p]).after work rest := by
  obtain ⟨stopped, look⟩ := p
  cases c with
  | done v | failed | cancelled => rfl
  | running x =>
    simp only [after, fate]
    cases work x <;> cases stopped <;> cases look <;> rfl

theorem after_append (c : Child σ α) (first more : List (Bool × Look)) :
    c.after work (first ++ more) = (c.after work first).after work more := by
  induction first generalizing c with
  | nil => rw [List.nil_append, after_nil]
  | cons p rest ih => rw [List.cons_append, after_cons, ih, ← after_cons]

/-- One poll does to a child what its fate says. -/
theorem advance_eq (stopped : Bool) (look : Look) (c : Child σ α) :
    Scope.advance stopped look work c = c.after work [(stopped, look)] := by
  cases c with
  | done v | failed | cancelled => rfl
  | running x =>
    simp only [Scope.advance, after, fate]
    cases work x <;> cases stopped <;> cases look <;> rfl

/-- To what the handle of a running child can resolve, and why. -/
inductive Resolves (work : σ → Poll σ α) (stopped : Bool) (x : σ) : Except Unit (Option α) → Prop where
  | completed {v : α} (ready : work x = .ready v) : Resolves work stopped x (.ok (some v))
  | cancelled (signalled : stopped = true) : Resolves work stopped x (.ok none)
  | failed (broke : work x = .failed) : Resolves work stopped x (.error ())

theorem resolves_of_fate {stopped : Bool} {look : Look} {x : σ} {o : Except Unit (Option α)}
    (ended : (fate work x [(stopped, look)]).result? = some o) : Resolves work stopped x o := by
  simp only [fate] at ended
  cases went : work x <;> cases stopped <;> cases look <;> rw [went] at ended <;> cases ended
  case ready.false.signal | ready.false.work | ready.true.work => exact .completed went
  case failed.false.signal | failed.false.work | failed.true.work => exact .failed went
  all_goals exact .cancelled rfl

/-- A poll leaves the handle of a running child open only if its work has to wait and is waited for. -/
theorem fate_waits_iff (stopped : Bool) (look : Look) (x : σ) :
    (fate work x [(stopped, look)]).result? = none ↔ stopped = false ∧ ∃ y, work x = .pending y := by
  simp only [fate]
  cases work x <;> cases stopped <;> cases look <;> simp [result?]

/-- Work that has to wait is not waited for in a stopped scope. -/
theorem fate_stopped {x y : σ} (waits : work x = .pending y) (look : Look) (rest : List (Bool × Look)) :
    fate work x ((true, look) :: rest) = .cancelled := by
  simp only [fate, waits]
  cases look <;> rfl

end Child

namespace Scope

variable {σ α : Type} {work : σ → Poll σ α}

/-- What a turn does to the scope that it concerns. -/
def own (work : σ → Poll σ α) (t : ScopeTurn σ) (s : Scope σ α) : Scope σ α :=
  match t with
  | .spawn _ start => if s.dropped then s else s.spawn start
  | .cancel _ => s.cancel
  | .drop _ => s.drop
  | .poll _ n look => s.poll look work n

theorem turn_eq (scopes : List (Scope σ α)) (t : ScopeTurn σ) :
    turn work scopes t = scopes.modify t.scope (own work t) := by
  cases t <;> rfl

theorem turn_getElem? (scopes : List (Scope σ α)) (t : ScopeTurn σ) (i : Nat) :
    (turn work scopes t)[i]? = if t.scope = i then scopes[i]?.map (own work t) else scopes[i]? := by
  rw [turn_eq, List.getElem?_modify]
  by_cases same : t.scope = i <;> simp [same]

theorem run_cons (scopes : List (Scope σ α)) (t : ScopeTurn σ) (rest : List (ScopeTurn σ)) :
    run work scopes (t :: rest) = run work (turn work scopes t) rest := rfl

theorem run_append (scopes : List (Scope σ α)) (first more : List (ScopeTurn σ)) :
    run work scopes (first ++ more) = run work (run work scopes first) more := List.foldl_append

/-! ### Contexts -/

@[simp] theorem own_context (t : ScopeTurn σ) (s : Scope σ α) : (own work t s).context = s.context := by
  cases t with
  | cancel j | drop j | poll j m look => rfl
  | spawn j start => by_cases gone : s.dropped = true <;> simp [own, gone, spawn]

theorem turn_contexts (scopes : List (Scope σ α)) (t : ScopeTurn σ) :
    (turn work scopes t).map context = scopes.map context := by
  refine List.ext_getElem? fun i => ?_
  rw [List.getElem?_map, List.getElem?_map, turn_getElem?]
  by_cases same : t.scope = i
  · rw [if_pos same, Option.map_map]
    exact congrArg (fun f => Option.map f scopes[i]?) (funext fun s => own_context t s)
  · rw [if_neg same]

/-- No turn changes the context of a scope. -/
theorem run_contexts (scopes : List (Scope σ α)) (turns : List (ScopeTurn σ)) :
    (run work scopes turns).map context = scopes.map context := by
  induction turns generalizing scopes with
  | nil => rfl
  | cons t rest ih => rw [run_cons, ih, turn_contexts]

/-! ### Children -/

/-- The child of a scope. -/
def child? (i n : Nat) (scopes : List (Scope σ α)) : Option (Child σ α) :=
  scopes[i]?.bind fun s => s.children[n]?

/-- What the handle of a child has resolved to, if it has. -/
def handle? (i n : Nat) (scopes : List (Scope σ α)) : Option (Except Unit (Option α)) :=
  scopes[i]?.bind (outcome? n)

theorem handle?_eq (i n : Nat) (scopes : List (Scope σ α)) :
    handle? i n scopes = (child? i n scopes).bind Child.result? := by
  have result (s : Scope σ α) : outcome? n s = s.children[n]?.bind Child.result? := by
    unfold outcome?
    cases s.children[n]? with
    | none => rfl
    | some c => cases c <;> rfl
  unfold handle? child?
  rw [Option.bind_assoc, funext result]

theorem own_cancelled (t : ScopeTurn σ) (s : Scope σ α) :
    (own work t s).cancelled = (s.cancelled || t.stops t.scope) := by
  cases t with
  | cancel j | drop j => simp [own, drop, cancel, ScopeTurn.stops, ScopeTurn.scope]
  | poll j m look => simp [own, poll, ScopeTurn.stops]
  | spawn j start => by_cases gone : s.dropped = true <;> simp [own, gone, spawn, ScopeTurn.stops]

/-- A turn does to a child of its scope no more than the child's poll, if it is one. -/
theorem own_child {n : Nat} {c : Child σ α} {s : Scope σ α} (t : ScopeTurn σ) (here : s.children[n]? = some c) :
    (own work t s).children[n]? = some (c.after work (ScopeTurn.polls t.scope n s.cancelled [t])) := by
  cases t with
  | cancel j | drop j =>
    change s.children[n]? = some (c.after work [])
    rw [Child.after_nil, here]
  | spawn j start =>
    change (if s.dropped = true then s else s.spawn start).children[n]? = some (c.after work [])
    rw [Child.after_nil]
    by_cases gone : s.dropped = true
    · rw [if_pos gone, here]
    · obtain ⟨inside, _⟩ := List.getElem?_eq_some_iff.mp here
      rw [if_neg gone, spawn, List.getElem?_append_left inside, here]
  | poll j m look =>
    change (s.children.modify m (advance s.cancelled look work))[n]? = _
    rw [List.getElem?_modify, here]
    by_cases same : m = n
    · subst same
      rw [ScopeTurn.scope, ScopeTurn.polls_self, ← Child.advance_eq]
      simp
    · rw [ScopeTurn.polls_of_ne s.cancelled (by rintro look' ⟨⟩; exact same rfl), Child.after_nil]
      simp [same]

/-- What a turn does to a child, wherever it is. -/
theorem turn_child {i n : Nat} {c : Child σ α} {s : Scope σ α} {scopes : List (Scope σ α)} (t : ScopeTurn σ)
    (there : scopes[i]? = some s) (here : s.children[n]? = some c) :
    ∃ s', (turn work scopes t)[i]? = some s' ∧ s'.cancelled = (s.cancelled || t.stops i) ∧
      s'.children[n]? = some (c.after work (ScopeTurn.polls i n s.cancelled [t])) := by
  rw [turn_getElem?, there]
  by_cases same : t.scope = i
  · subst same
    exact ⟨own work t s, if_pos rfl, own_cancelled t s, own_child t here⟩
  · rw [ScopeTurn.stops_elsewhere same, Bool.or_false,
      ScopeTurn.polls_of_ne _ (ScopeTurn.ne_poll_of_scope same), Child.after_nil]
    exact ⟨s, if_neg same, rfl, here⟩

/-- Through a run a child becomes what its own polls make of it. -/
theorem run_child {i n : Nat} {c : Child σ α} {s : Scope σ α} {scopes : List (Scope σ α)}
    (there : scopes[i]? = some s) (here : s.children[n]? = some c) (turns : List (ScopeTurn σ)) :
    child? i n (run work scopes turns) = some (c.after work (ScopeTurn.polls i n s.cancelled turns)) := by
  -- Over any scopes: after one turn the rest of the polls is counted from the signal as it is then.
  induction turns generalizing scopes s c with
  | nil =>
    change scopes[i]?.bind _ = some (c.after work [])
    rw [there, Child.after_nil]
    exact here
  | cons t rest ih =>
    obtain ⟨s', there', stopped, here'⟩ : ∃ s', (turn work scopes t)[i]? = some s' ∧ _ :=
      turn_child t there here
    rw [run_cons, ih there' here', stopped, ScopeTurn.polls_cons s.cancelled t rest, Child.after_append]

/-! ### What a schedule makes of a scope -/

theorem own_dropped {t : ScopeTurn σ} {s : Scope σ α} (gone : (own work t s).dropped = true) :
    s.dropped = true ∨ t = .drop t.scope := by
  cases t with
  | drop j => exact .inr rfl
  | cancel j | poll j m look => exact .inl gone
  | spawn j start =>
    by_cases before : s.dropped = true
    · exact .inl before
    · rw [own, if_neg before] at gone
      exact .inl gone

theorem own_started {t : ScopeTurn σ} {s : Scope σ α} (there : s.dropped = false) :
    (own work t s).children.length = s.children.length + [t].countP (·.starts t.scope) := by
  cases t with
  | cancel j | drop j => rfl
  | poll j m look => exact List.length_modify ..
  | spawn j start => simp [own, there, spawn, ScopeTurn.starts, ScopeTurn.scope]

/-- What the turns so far have made of a scope. -/
structure Kept (schedule : List (ScopeTurn σ)) (i : Nat) (s : Scope σ α) : Prop where
  stopped : s.cancelled = schedule.any (·.stops i)
  dropped : s.dropped = true → .drop i ∈ schedule
  started : .drop i ∉ schedule → s.children.length = schedule.countP (·.starts i)

theorem Kept.turn {schedule : List (ScopeTurn σ)} {scopes : List (Scope σ α)}
    (h : ∀ i s, scopes[i]? = some s → Kept schedule i s) (t : ScopeTurn σ) :
    ∀ i s, (turn work scopes t)[i]? = some s → Kept (schedule ++ [t]) i s := by
  intro i s' there'
  rw [turn_getElem?] at there'
  by_cases same : t.scope = i
  · subst same
    rw [if_pos rfl, Option.map_eq_some_iff] at there'
    obtain ⟨s, there, rfl⟩ := there'
    have kept := h t.scope s there
    refine ⟨?_, fun gone => ?_, fun never => ?_⟩
    · rw [own_cancelled, kept.stopped, List.any_append, List.any_cons, List.any_nil, Bool.or_false]
    · rcases own_dropped gone with before | now
      · exact List.mem_append_left _ (kept.dropped before)
      · exact List.mem_append_right _ (List.mem_singleton.mpr now.symm)
    · have before : .drop t.scope ∉ schedule := fun member => never (List.mem_append_left _ member)
      have present : s.dropped = false := Bool.eq_false_iff.mpr (mt kept.dropped before)
      rw [own_started present, kept.started before, List.countP_append]
  · rw [if_neg same] at there'
    have kept := h i s' there'
    refine ⟨?_, fun gone => List.mem_append_left _ (kept.dropped gone), fun never => ?_⟩
    · simp [kept.stopped, ScopeTurn.stops_elsewhere same]
    · have before : .drop i ∉ schedule := fun member => never (List.mem_append_left _ member)
      simp [kept.started before, ScopeTurn.starts_elsewhere same]

theorem Kept.run {schedule : List (ScopeTurn σ)} {scopes : List (Scope σ α)}
    (h : ∀ i s, scopes[i]? = some s → Kept schedule i s) (turns : List (ScopeTurn σ)) :
    ∀ i s, (run work scopes turns)[i]? = some s → Kept (schedule ++ turns) i s := by
  induction turns generalizing schedule scopes with
  | nil => rwa [List.append_nil]
  | cons t rest ih =>
    rw [List.append_cons, run_cons]
    exact ih (Kept.turn h t)

/-- The scopes of these contexts, after a schedule. -/
def opened (work : σ → Poll σ α) (contexts : List Context) (schedule : List (ScopeTurn σ)) : List (Scope σ α) :=
  run work (contexts.map fun c => { context := c }) schedule

variable {contexts : List Context} {schedule : List (ScopeTurn σ)}

variable (work contexts schedule) in
theorem opened_contexts : (opened work contexts schedule).map context = contexts := by
  unfold opened
  rw [run_contexts, List.map_map]
  exact List.map_id contexts

theorem opened_kept {i : Nat} {s : Scope σ α} (there : (opened work contexts schedule)[i]? = some s) :
    Kept schedule i s := by
  have fresh : ∀ i s, (contexts.map fun c => ({ context := c } : Scope σ α))[i]? = some s → Kept [] i s := by
    intro i s new
    rw [List.getElem?_map, Option.map_eq_some_iff] at new
    obtain ⟨c, _, rfl⟩ := new
    exact ⟨rfl, nofun, fun _ => rfl⟩
  exact Kept.run fresh schedule i s there

theorem opened_getElem? {i : Nat} {c : Context} (made : contexts[i]? = some c) :
    ∃ s, (opened work contexts schedule)[i]? = some s ∧ s.context = c := by
  have same := congrArg (·[i]?) (opened_contexts work contexts schedule)
  rw [made, List.getElem?_map, Option.map_eq_some_iff] at same
  exact same

/-! ### One turn more -/

variable {i n : Nat}

theorem child?_cases {scopes : List (Scope σ α)} {c : Child σ α} (there : child? i n scopes = some c) :
    ∃ s, scopes[i]? = some s ∧ s.children[n]? = some c := Option.bind_eq_some_iff.mp there

/-- A child of scopes that a schedule has led to, through more turns. -/
theorem opened_child {c : Child σ α} (there : child? i n (opened work contexts schedule) = some c)
    (work' : σ → Poll σ α) (later : List (ScopeTurn σ)) :
    child? i n (run work' (opened work contexts schedule) later) =
      some (c.after work' (ScopeTurn.polls i n (schedule.any (·.stops i)) later)) := by
  obtain ⟨s, scope, here⟩ := child?_cases there
  rw [run_child scope here, (opened_kept scope).stopped]

/-- Nothing but its own polls changes a child. -/
theorem child_apart {c : Child σ α} (there : child? i n (opened work contexts schedule) = some c)
    {t : ScopeTurn σ} (other : ∀ look, t ≠ .poll i n look) :
    child? i n (turn work (opened work contexts schedule) t) = some c := by
  have one := opened_child there work [t]
  rwa [ScopeTurn.polls_of_ne _ other, Child.after_nil] at one

theorem opened_poll {x : σ} (runs : child? i n (opened work contexts schedule) = some (.running x)) (look : Look) :
    child? i n (turn work (opened work contexts schedule) (.poll i n look)) =
      some (Child.fate work x [(schedule.any (·.stops i), look)]) := by
  have one := opened_child runs work [.poll i n look]
  rwa [ScopeTurn.polls_self] at one

/-- A handle that has resolved stays so, and nothing of the child's work is asked for again. -/
theorem handle_stays {o : Except Unit (Option α)}
    (resolved : handle? i n (opened work contexts schedule) = some o) (work' : σ → Poll σ α)
    (later : List (ScopeTurn σ)) :
    handle? i n (run work' (opened work contexts schedule) later) = some o := by
  rw [handle?_eq, Option.bind_eq_some_iff] at resolved
  obtain ⟨c, there, ended⟩ := resolved
  rw [handle?_eq, opened_child there, Child.after_of_result? ended]
  exact ended

/-- A child that starts has not resolved. -/
theorem own_unresolved {s : Scope σ α} (missing : s.children[n]? = none) (t : ScopeTurn σ) :
    outcome? n (own work t s) = none := by
  have absent : outcome? n s = none := by rw [outcome?, missing]
  cases t with
  | cancel j | drop j => exact absent
  | poll j m look =>
    have polled : (s.children.modify m (advance s.cancelled look work))[n]? = none := by
      rw [List.getElem?_modify, missing]
      rfl
    rw [own, poll, outcome?, polled]
  | spawn j start =>
    by_cases gone : s.dropped = true
    · rw [own, if_pos gone, absent]
    · rw [own, if_neg gone, spawn, outcome?]
      rcases Nat.eq_or_lt_of_le (List.getElem?_eq_none_iff.mp missing) with rfl | beyond
      · rw [List.getElem?_concat_length]
      · rw [List.getElem?_eq_none (by simpa [Nat.succ_le_iff] using beyond)]

theorem turn_unresolved {scopes : List (Scope σ α)} (missing : child? i n scopes = none) (t : ScopeTurn σ) :
    handle? i n (turn work scopes t) = none := by
  unfold handle?
  rw [turn_getElem?]
  cases there : scopes[i]? with
  | none => simp
  | some s =>
    have absent : s.children[n]? = none := by rwa [child?, there] at missing
    split
    · exact own_unresolved absent t
    · change outcome? n s = none
      rw [outcome?, absent]

/-- A handle resolves only by a poll of its own child, and for a reason. -/
theorem handle_resolves {t : ScopeTurn σ} {o : Except Unit (Option α)}
    (waits : handle? i n (opened work contexts schedule) = none)
    (resolved : handle? i n (turn work (opened work contexts schedule) t) = some o) :
    ∃ look x, t = .poll i n look ∧ child? i n (opened work contexts schedule) = some (.running x) ∧
      Child.Resolves work (schedule.any (·.stops i)) x o := by
  cases there : child? i n (opened work contexts schedule) with
  | none => cases (turn_unresolved there t).symm.trans resolved
  | some c =>
    rw [handle?_eq, there] at waits
    obtain ⟨x, rfl⟩ := Child.running_of_result? waits
    -- Unless the turn is the child's own poll, the child is what it was and has no result.
    by_cases own : ∃ look, t = .poll i n look
    · obtain ⟨look, rfl⟩ := own
      rw [handle?_eq, opened_poll there look] at resolved
      exact ⟨look, x, rfl, rfl, Child.resolves_of_fate resolved⟩
    · have same := child_apart there fun look poll => own ⟨look, poll⟩
      rw [handle?_eq, same] at resolved
      cases resolved

/-- A child whose work has to wait when it is polled in a stopped scope ends there. -/
theorem stopped_ends {t : ScopeTurn σ} (member : t ∈ schedule) (stops : t.stops i = true) {x y : σ}
    (runs : child? i n (opened work contexts schedule) = some (.running x)) (waits : work x = .pending y)
    (look : Look) :
    child? i n (turn work (opened work contexts schedule) (.poll i n look)) = some .cancelled := by
  have stopped : schedule.any (·.stops i) = true := List.any_eq_true.mpr ⟨t, member, stops⟩
  rw [opened_poll runs, stopped, Child.fate_stopped waits]

/-- What becomes of a task, from its start on. -/
theorem spawned_lives {c : Context} (made : contexts[i]? = some c) (present : .drop i ∉ schedule)
    (start : Context → σ) (later : List (ScopeTurn σ)) :
    child? i (schedule.countP (·.starts i)) (opened work contexts (schedule ++ .spawn i start :: later)) =
      some (Child.fate work (start c)
        (ScopeTurn.polls i (schedule.countP (·.starts i)) (schedule.any (·.stops i)) later)) := by
  obtain ⟨s, there, rfl⟩ : ∃ s, (opened work contexts schedule)[i]? = some s ∧ _ := opened_getElem? made
  have kept := opened_kept there
  have alive : s.dropped = false := Bool.eq_false_iff.mpr (mt kept.dropped present)
  have begun : (turn work (opened work contexts schedule) (.spawn i start))[i]? = some (s.spawn start) := by
    rw [turn_getElem?, there, ScopeTurn.scope, if_pos rfl, Option.map_some, own, if_neg (by simp [alive])]
  have here : (s.spawn start).children[schedule.countP (·.starts i)]? = some (.running (start s.context)) := by
    rw [← kept.started present]
    exact List.getElem?_concat_length
  have cancelled : (s.spawn start).cancelled = schedule.any (·.stops i) := kept.stopped
  unfold opened at begun ⊢
  rw [run_append, run_cons, run_child begun here, cancelled]
  rfl

/-- What a run does to a scope is done by the turns that concern it. -/
theorem run_getElem? (scopes : List (Scope σ α)) (turns : List (ScopeTurn σ)) (j : Nat) :
    (run work scopes turns)[j]? =
      scopes[j]?.map fun s => (turns.filter (·.scope == j)).foldl (fun s t => own work t s) s := by
  induction turns generalizing scopes with
  | nil => simp [run]
  | cons t rest ih =>
    rw [run_cons, ih, turn_getElem?]
    by_cases same : t.scope = j
    · rw [if_pos same, List.filter_cons_of_pos (by simpa using same), Option.map_map]
      rfl
    · rw [if_neg same, List.filter_cons_of_neg (by simpa using same)]

/-- The promises of request scopes after a schedule. -/
structure Promises (work : σ → Poll σ α) (contexts : List Context) (schedule : List (ScopeTurn σ)) : Prop where
  /-- Every scope has the context that it was made with. -/
  kept : (opened work contexts schedule).map context = contexts
  /-- A task starts on a copy of its scope's context, whether the scope was cancelled before or not, and what
  becomes of it is what its own polls make of its own work. -/
  lives : ∀ i c start later, contexts[i]? = some c → .drop i ∉ schedule →
    child? i (schedule.countP (·.starts i)) (opened work contexts (schedule ++ .spawn i start :: later)) =
      some (Child.fate work (start c)
        (ScopeTurn.polls i (schedule.countP (·.starts i)) (schedule.any (·.stops i)) later))
  /-- A turn that is not a poll of a child leaves it as it is. -/
  apart : ∀ t i n c, (∀ look, t ≠ .poll i n look) → child? i n (opened work contexts schedule) = some c →
    child? i n (turn work (opened work contexts schedule) t) = some c
  /-- A handle resolves by a poll of its child: to a value that the child's work has come to, to nothing if
  the scope was stopped, or to the failure of the work. -/
  resolves : ∀ t i n o, handle? i n (opened work contexts schedule) = none →
    handle? i n (turn work (opened work contexts schedule) t) = some o →
      ∃ look x, t = .poll i n look ∧ child? i n (opened work contexts schedule) = some (.running x) ∧
        Child.Resolves work (schedule.any (·.stops i)) x o
  /-- A poll of a running child leaves its handle open only if the work has to wait and the scope was not
  stopped. -/
  due : ∀ i n x look, child? i n (opened work contexts schedule) = some (.running x) →
    (handle? i n (turn work (opened work contexts schedule) (.poll i n look)) = none ↔
      schedule.any (·.stops i) = false ∧ ∃ y, work x = .pending y)
  /-- To whatever a handle has resolved, it stays at that, whatever the work would still do. -/
  once : ∀ i n o, handle? i n (opened work contexts schedule) = some o → ∀ work' later,
    handle? i n (run work' (opened work contexts schedule) later) = some o
  /-- A child whose work has to wait when it is polled after a cancel or drop of its scope ends at that poll,
  whenever it was started. -/
  stopped : ∀ t i, t ∈ schedule → t.stops i = true → ∀ n x y look,
    child? i n (opened work contexts schedule) = some (.running x) → work x = .pending y →
      child? i n (turn work (opened work contexts schedule) (.poll i n look)) = some .cancelled ∧
      handle? i n (turn work (opened work contexts schedule) (.poll i n look)) = some (.ok none)
  /-- The turns of other scopes, their cancelling and dropping among them, are nothing to a scope. -/
  elsewhere : ∀ j later, (run work (opened work contexts schedule) later)[j]? =
    (run work (opened work contexts schedule) (later.filter (·.scope == j)))[j]?

/-- Request scopes keep their promises after every schedule. -/
theorem keeps_promises (work : σ → Poll σ α) (contexts : List Context) (schedule : List (ScopeTurn σ)) :
    Promises work contexts schedule where
  kept := opened_contexts work contexts schedule
  lives i c start later made present := spawned_lives made present start later
  apart t i n c other there := child_apart there other
  resolves t i n o := handle_resolves
  due i n x look runs := by
    rw [handle?_eq, opened_poll runs]
    exact Child.fate_waits_iff (schedule.any (·.stops i)) look x
  once i n o := handle_stays
  stopped t i member stops n x y look runs waits := by
    have ended := stopped_ends member stops runs waits look
    refine ⟨ended, ?_⟩
    rw [handle?_eq, ended]
    rfl
  elsewhere j later := by
    rw [run_getElem?, run_getElem?, List.filter_filter]
    simp only [Bool.and_self]

end Scope

/-- To settle the sleepers of a scope is to poll each of them in turn. -/
theorem Sleeper.settle_run (now : Instant) (s : Scope Sleeper Context) :
    Scope.run (step now) [s] ((order s).map fun n => .poll 0 n .signal) = [settle now s] := by
  have each : ∀ (ns : List Nat) (s : Scope Sleeper Context),
      Scope.run (step now) [s] (ns.map fun n => .poll 0 n .signal) =
        [ns.foldl (fun s n => s.poll .signal (step now) n) s] := by
    intro ns
    induction ns with
    | nil => exact fun s => rfl
    | cons n rest ih => exact fun s => ih (s.poll .signal (step now) n)
  exact each (order s) s

end Courier
