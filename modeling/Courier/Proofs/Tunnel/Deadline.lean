import Courier.Proofs.Http.Headers
import Courier.Proofs.Rpc.Deadline
import Courier.Proofs.Tunnel.Execution
import Courier.Proofs.Tunnel.Intake
/-!
Deadlines of calls, as the tunnel's end keeps them.  A call should be turned away if its deadline stands for
no span, and else be answered within the span or not at all.  Two things come between: a value that is no
visible text is passed over as if there were no deadline, and only the head of a response has to come in
time, at the next whole millisecond, while the body may take as long as it likes.
-/
namespace Courier.Tunnel

open Http (Headers)

/-- The value of a header stands for a span. -/
def Denotes (value : Bytes) (d : Duration) : Prop :=
  ∃ text, value = Text.utf8 text ∧ Rpc.Deadline.Denotes text d

theorem Denotes.visible {value : Bytes} {d : Duration} (h : Denotes value d) :
    value.all Http.isVisibleByte = true := by
  obtain ⟨text, rfl, denotes⟩ := h
  cases denotes with
  | count digits unit _ _ decimal =>
    exact Http.all_visible_utf8 (Rpc.Deadline.printable_count unit decimal)

section

variable {metadata : Headers} {value : Bytes} {d : Duration}
  (entry : metadata.get? Rpc.Deadline.header = some value)
include entry

theorem deadline?_of_denotes (h : Denotes value d) : deadline? metadata = .ok (some d) := by
  have visible := h.visible
  obtain ⟨text, rfl, denotes⟩ := h
  have shown : metadata.text? Rpc.Deadline.header = some text := by
    rw [Headers.text?, entry, Option.bind_some]
    exact Http.visible?_iff.mpr ⟨visible, rfl⟩
  simp only [deadline?, shown, Rpc.Deadline.parse_of_denotes denotes]

theorem deadline?_of_unreadable (unreadable : value.all Http.isVisibleByte = false) :
    deadline? metadata = .ok none := by
  have hidden : metadata.text? Rpc.Deadline.header = none := by
    rw [Headers.text?, entry, Option.bind_some, Http.visible?, unreadable]
    rfl
  simp only [deadline?, hidden]

theorem deadline?_of_meaningless (readable : value.all Http.isVisibleByte = true)
    (meaningless : ∀ d, ¬ Denotes value d) :
    deadline? metadata = .error (.plain .outOfRange "invalid deadline") := by
  obtain ⟨text, shown⟩ : ∃ text, Http.visible? value = some text := by
    rw [Http.visible?, readable]
    exact ⟨_, rfl⟩
  have shown_there : metadata.text? Rpc.Deadline.header = some text := by
    rw [Headers.text?, entry, Option.bind_some, shown]
  simp only [deadline?, shown_there]
  split
  · next d read =>
    obtain ⟨_, same⟩ := Http.visible?_iff.mp shown
    exact absurd ⟨text, same, Rpc.Deadline.denotes_of_parse read⟩ (meaningless d)
  · rfl

end

section

variable {σ : Type} (service : Service σ) (boundary : String) (now : Instant) (peer : Option String)
  (m : Message) (cancel : Option Duration) (tracker : Tracker) (world : σ) (value : Bytes)

/-- An execution that does what the deadline says: it is turned away before anything runs, because the
deadline stands for no span, or it has the span that the deadline stands for, and is answered within it
if it is answered. -/
inductive Keeps (e : Execution σ) : Prop where
  | rejected (meaningless : ∀ d, ¬ Denotes value d)
      (turned : e = turnedAway m peer none false tracker world (.plain .outOfRange "invalid deadline"))
  | within {d : Duration} (denoted : Denotes value d)
      (ran : e = executeWithin service boundary now (some d) peer m cancel tracker world)
      (inTime : ∀ reply, e.ending = .answered reply → e.elapsed.le d = true)

/-- What the promise comes to for a call with this deadline: it can be read, and no response that arrives
is longer under way than it says. -/
structure Punctual : Prop where
  readable : value.all Http.isVisibleByte = true
  inTime : ∀ d request v, Denotes value d → m.inbound? boundary peer = .ok request →
    (service request world).1 = .served v → Arrives now (some d) cancel v →
    (v.delay.add v.bodyDelay).le d = true

end

section

variable {σ : Type} {service : Service σ} {boundary : String} {now : Instant} {peer : Option String}
  {m : Message} {cancel : Option Duration} {tracker : Tracker} {world : σ} {value : Bytes}

theorem Denotes.unique {d d' : Duration} (h : Denotes value d) (h' : Denotes value d') : d = d' := by
  obtain ⟨text, rfl, denotes⟩ := h
  obtain ⟨text', same, denotes'⟩ := h'
  obtain rfl := Text.utf8_inj same
  have read := (Rpc.Deadline.parse_of_denotes denotes).symm.trans (Rpc.Deadline.parse_of_denotes denotes')
  cases read
  rfl

/-- A call with a span is answered within it exactly if the responses that arrive are not late. -/
theorem executeWithin_inTime_iff {d : Duration} :
    (∀ reply, (executeWithin service boundary now (some d) peer m cancel tracker world).ending =
        .answered reply →
      (executeWithin service boundary now (some d) peer m cancel tracker world).elapsed.le d = true) ↔
      ∀ request v, m.inbound? boundary peer = .ok request → (service request world).1 = .served v →
        Arrives now (some d) cancel v → (v.delay.add v.bodyDelay).le d = true := by
  unfold executeWithin
  cases taken : m.inbound? boundary peer with
  | error status =>
    constructor
    · intro _ request v accepted
      cases accepted
    · intro _ reply answered
      cases answered
  | ok request =>
    constructor
    · intro kept asked v accepted served arrives
      cases accepted
      obtain ⟨answered, elapsed⟩ := (course_answered_iff service now (some d) peer m cancel tracker
        world).mpr ⟨v, served, arrives, rfl, rfl⟩
      rw [← elapsed]
      exact kept _ answered
    · intro kept reply answered
      obtain ⟨v, served, arrives, _, elapsed⟩ := (course_answered_iff service now (some d) peer m cancel
        tracker world).mp ⟨answered, rfl⟩
      rw [elapsed]
      exact kept request v rfl served arrives

/-- An unreadable deadline is passed over, so the call is let in; the promise is not kept. -/
theorem not_keeps_of_unreadable (unreadable : value.all Http.isVisibleByte = false) :
    ¬ Keeps service boundary now peer m cancel tracker world value
      (executeWithin service boundary now none peer m cancel tracker world) := by
  intro kept
  cases kept with
  | rejected _ turned =>
    have entered := congrArg Execution.entered turned
    unfold executeWithin at entered
    split at entered <;> cases entered
  | within denoted _ _ =>
    rw [denoted.visible] at unreadable
    cases unreadable

end

/-- For every service and every framed call with a deadline, however it is spelled and however long the
response and its body take: the call is turned away because the deadline stands for no span, or has the
span that it stands for and is answered within it, exactly if the deadline is readable and no response
arrives late, by its last byte.  With an unreadable deadline the call runs as if it had none. -/
theorem deadline_kept_iff {σ : Type} (service : Service σ) (boundary : String) (now : Instant)
    (metadata : Headers) (peer : Option String) (m : Message) (cancel : Option Duration) (tracker : Tracker)
    (world : σ) (value : Bytes) (framed : checkFraming metadata = .ok ())
    (entry : metadata.get? Rpc.Deadline.header = some value) :
    let e := execute service boundary now metadata peer m cancel tracker world
    (Keeps service boundary now peer m cancel tracker world value e ↔
      Punctual service boundary now peer m cancel world value) ∧
    (value.all Http.isVisibleByte = false →
      e = executeWithin service boundary now none peer m cancel tracker world) := by
  intro e
  cases readable : value.all Http.isVisibleByte with
  | false =>
    have passed : e = executeWithin service boundary now none peer m cancel tracker world :=
      execute_of_allowed _ _ _ _ _ _ _ _ framed (deadline?_of_unreadable entry readable)
    refine ⟨⟨fun kept => ?_, fun punctual => ?_⟩, fun _ => passed⟩
    · rw [passed] at kept
      exact absurd kept (not_keeps_of_unreadable readable)
    · rw [punctual.readable] at readable
      cases readable
  | true =>
    refine ⟨?_, nofun⟩
    by_cases meaning : ∃ d, Denotes value d
    · obtain ⟨d, denoted⟩ := meaning
      have ran : e = executeWithin service boundary now (some d) peer m cancel tracker world :=
        execute_of_allowed _ _ _ _ _ _ _ _ framed (deadline?_of_denotes entry denoted)
      rw [ran]
      constructor
      · intro kept
        cases kept with
        | rejected meaningless _ => exact absurd denoted (meaningless d)
        | within denoted' _ inTime =>
          obtain rfl := denoted.unique denoted'
          refine ⟨readable, fun d' request v denoted'' => ?_⟩
          obtain rfl := denoted.unique denoted''
          exact executeWithin_inTime_iff.mp inTime request v
      · intro punctual
        exact .within denoted rfl
          (executeWithin_inTime_iff.mpr fun request v => punctual.inTime d request v denoted)
    · have meaningless : ∀ d, ¬ Denotes value d := fun d denoted => meaning ⟨d, denoted⟩
      have turned : e = turnedAway m peer none false tracker world (.plain .outOfRange "invalid deadline") :=
        execute_of_refused _ _ _ _ _ _ _ _
          (.untimed framed (deadline?_of_meaningless entry readable meaningless))
      exact ⟨fun _ => ⟨readable, fun d _ _ denoted => absurd denoted (meaningless d)⟩,
        fun _ => .rejected meaningless turned⟩

/-- A service that takes five milliseconds to the head of a response and five more to its end. -/
def prompt : Service Unit := fun _ x =>
  (.served { response := .empty .ok, delay := .ofMillis 5, bodyDelay := .ofMillis 5 }, x)

def inspected : Message := { Message.empty with method := "GET", endpoint := Text.utf8 "/inspect" }

/-- A framed call with this deadline. -/
def timed (deadline : String) : Headers := framing ++ [(Rpc.Deadline.header, Text.utf8 deadline)]

theorem second_is_kept :
    checkFraming (timed "1S") = .ok () ∧
      (timed "1S").get? Rpc.Deadline.header = some (Text.utf8 "1S") ∧
      Punctual prompt "part" 0 none inspected none () (Text.utf8 "1S") ∧
      Keeps prompt "part" 0 none inspected none {} () (Text.utf8 "1S")
        (execute prompt "part" 0 (timed "1S") none inspected none {} ()) := by
  have framed : checkFraming (timed "1S") = .ok () := by decide +kernel
  have entry : (timed "1S").get? Rpc.Deadline.header = some (Text.utf8 "1S") := by decide +kernel
  have second : Denotes (Text.utf8 "1S") (.ofSeconds 1) :=
    ⟨"1S", rfl, .count ['1'] .second (by decide) (by decide) (List.forall_mem_singleton.mpr rfl)⟩
  have punctual : Punctual prompt "part" 0 none inspected none () (Text.utf8 "1S") := by
    refine ⟨by decide +kernel, fun d request v denoted _ served _ => ?_⟩
    obtain rfl := second.unique denoted
    cases served
    decide
  exact ⟨framed, entry, punctual,
    (deadline_kept_iff prompt "part" 0 (timed "1S") none inspected none {} () _ framed entry).1.mpr punctual⟩

/-- A deadline that is no ASCII text stands for no span, but nobody is turned away for it. -/
theorem unreadable_deadline_is_not_kept :
    ¬ ∀ (service : Service Unit) (boundary : String) (now : Instant) (metadata : Headers)
      (peer : Option String) (m : Message) (cancel : Option Duration) (tracker : Tracker) (world : Unit)
      (value : Bytes), checkFraming metadata = .ok () →
      metadata.get? Rpc.Deadline.header = some value →
      Keeps service boundary now peer m cancel tracker world value
        (execute service boundary now metadata peer m cancel tracker world) := by
  intro all
  have framed : checkFraming (timed "é") = .ok () := by decide +kernel
  have entry : (timed "é").get? Rpc.Deadline.header = some (Text.utf8 "é") := by decide +kernel
  have unreadable : (Text.utf8 "é").all Http.isVisibleByte = false := by decide +kernel
  have kept := all prompt "part" 0 (timed "é") none inspected none {} () _ framed entry
  rw [execute_of_allowed _ _ _ _ _ _ _ _ framed (deadline?_of_unreadable entry unreadable)] at kept
  exact not_keeps_of_unreadable unreadable kept

end Courier.Tunnel
