import Courier.Registry.Shared
import Courier.Proofs.Client.Closing
import Courier.Proofs.History
import Courier.Proofs.Table
/-!
One registry and its many callers, over every run of turns: names that are asked for, resets that begin at
any time and take out their names one by one while others call or reset in between.  Whoever may have a
client shares one with all others until a reset takes it out; nobody is handed a closed client; and a reset
that has returned has closed all that it found.  A registry hands out clients if and only if its settings let
in no more calls at once than can be counted.
-/
namespace Courier

namespace Client

/-- The settings let in no more calls at once than can be counted. -/
def Countable (s : Settings) : Prop := s.dispatchPermits.toNat ≤ permitLimit

theorem ofSettings_ok {name : String} {s : Settings} {c : Client} (made : ofSettings name s = .ok c) :
    Countable s ∧ c.name = name ∧ c.closed = false := by
  unfold ofSettings at made
  split at made
  · cases made
  · next fits =>
    cases made
    exact ⟨Nat.le_of_not_lt fits, rfl, rfl⟩

theorem ofSettings_of_countable (name : String) {s : Settings} (fits : Countable s) :
    ∃ c, ofSettings name s = .ok c := ⟨_, if_neg (Nat.not_lt.mpr fits)⟩

end Client

/-- The names that settings declare, without the blanks around them. -/
def Settings.Declares (s : Settings) (name : String) : Prop :=
  name ≠ "" ∧ ∃ entry ∈ s.connections ++ s.requiredConnections, Text.trim entry = name

theorem Settings.mem_allowedServices {s : Settings} {name : String} :
    name ∈ s.allowedServices ↔ s.Declares name := by
  rw [allowedServices, Table.mem_nameSet, List.mem_filter, List.mem_map, bne_iff_ne, and_comm]
  exact Iff.rfl

/-- What is noted of a registry. -/
inductive RegistryNote where
  | got (name : String) (result : Except RegistryError Nat)
  /-- A name was taken out and its client closed. -/
  | removed (name : String)
  /-- A reset began while these clients were there. -/
  | began (reset : Nat) (clients : Table Nat)

def RegistryNote.removes (name : String) : RegistryNote → Bool
  | .removed n => n == name
  | _ => false

namespace SharedRegistry

def noted (s : SharedRegistry) (t : RegistryTurn) : List RegistryNote :=
  match t with
  | .get name => match (s.step t).2 with
    | .client result => [.got name result]
    | _ => []
  | .insert _ => []
  | .beginReset order =>
    if order.isPerm (Table.keys s.registry.clients) then [.began s.resets.length s.registry.clients] else []
  | .continueReset n => match s.resets[n]? with
    | some (name :: _) => if Table.has name s.registry.clients then [.removed name] else []
    | _ => []

def recorder : Recorder SharedRegistry RegistryTurn RegistryNote where
  step s t := (s.step t).1
  notes := noted

theorem recorder_run (s : SharedRegistry) (turns : List RegistryTurn) :
    (recorder.run s turns).1 = s.run turns := recorder.run_state s turns

/-- How often the client of a name was taken out. -/
def removals (name : String) (log : List RegistryNote) : Nat := log.countP (·.removes name)

/-- How many clients were built for a name. -/
def built (name : String) (s : SharedRegistry) : Nat := (s.registry.instances.map Client.name).count name

def Closed (s : SharedRegistry) (n : Nat) : Prop := ∃ c, s.registry.instances[n]? = some c ∧ c.closed = true

/-- Everything that a turn can do. -/
inductive Does (s : SharedRegistry) : RegistryTurn → SharedRegistry → List RegistryNote → Prop where
  | found {name : String} {n : Nat} (allowed : name ∈ s.registry.allowed)
      (found : Table.get? name s.registry.clients = some n) : Does s (.get name) s [.got name (.ok n)]
  | made {name : String} {c : Client} (allowed : name ∈ s.registry.allowed)
      (missing : Table.get? name s.registry.clients = none)
      (made : Client.ofSettings name s.registry.settings = .ok c) :
      Does s (.get name)
        { s with registry := { s.registry with
            clients := Table.insert name s.registry.instances.length s.registry.clients
            instances := s.registry.instances ++ [c] } }
        [.got name (.ok s.registry.instances.length)]
  | failed {name : String} (error : RegistryError) : Does s (.get name) s [.got name (.error error)]
  | inserted (name : String) : Does s (.insert name) s []
  | began {order : List String} (perm : order.Perm (Table.keys s.registry.clients)) :
      Does s (.beginReset order) { s with resets := s.resets ++ [order] }
        [.began s.resets.length s.registry.clients]
  /-- Names do not come in an order that is none of theirs. -/
  | disordered (order : List String) : Does s (.beginReset order) s []
  | tookOut {k n : Nat} {name : String} {rest : List String} (next : s.resets[k]? = some (name :: rest))
      (found : Table.get? name s.registry.clients = some n) :
      Does s (.continueReset k)
        { registry := { s.registry with
            clients := Table.erase name s.registry.clients
            instances := s.registry.instances.modify n Client.close }
          resets := s.resets.set k rest }
        [.removed name]
  | passed {k : Nat} {name : String} {rest : List String} (next : s.resets[k]? = some (name :: rest))
      (missing : Table.get? name s.registry.clients = none) :
      Does s (.continueReset k) { s with resets := s.resets.set k rest } []
  | idle (k : Nat) : Does s (.continueReset k) s []

theorem does (s : SharedRegistry) (t : RegistryTurn) : Does s t (s.step t).1 (s.noted t) := by
  cases t with
  | get name =>
    by_cases allowed : name ∈ s.registry.allowed
    · cases found : Table.get? name s.registry.clients with
      | some n => simpa [step, noted, Registry.get, allowed, found] using Does.found allowed found
      | none =>
        cases made : Client.ofSettings name s.registry.settings with
        | ok c => simpa [step, noted, Registry.get, allowed, found, made] using Does.made allowed found made
        | error b =>
          have did : Does s (.get name) s [.got name (.error (.breach b))] := .failed _
          simpa [step, noted, Registry.get, allowed, found, made] using did
    · have did : Does s (.get name) s [.got name (.error (.refused (.unknownService name)))] := .failed _
      simpa [step, noted, Registry.get, allowed] using did
  | insert name => exact .inserted name
  | beginReset order =>
    by_cases perm : order.isPerm (Table.keys s.registry.clients)
    · simpa [step, noted, perm] using Does.began (List.isPerm_iff.mp perm)
    · simpa [step, noted, perm] using Does.disordered order
  | continueReset k =>
    cases next : s.resets[k]? with
    | none => simpa [step, noted, next] using Does.idle k
    | some names =>
      cases names with
      | nil => simpa [step, noted, next] using Does.idle k
      | cons name rest =>
        cases found : Table.get? name s.registry.clients with
        | some n =>
          simpa [step, noted, next, Registry.takeOut, Registry.close, Table.has, found] using
            Does.tookOut next found
        | none =>
          simpa [step, noted, next, Registry.takeOut, Table.has, found] using Does.passed next found

/-! ### Clients through a turn -/

theorem map_close (n : Nat) (clients : List Client) :
    (clients.modify n Client.close).map Client.name = clients.map Client.name := by
  refine List.ext_getElem? fun m => ?_
  rw [List.getElem?_map, List.getElem?_map, List.getElem?_modify]
  cases clients[m]? with
  | none => rfl
  | some c => by_cases same : n = m <;> simp [same]

section

variable {s s' : SharedRegistry} {t : RegistryTurn} {notes : List RegistryNote} {n : Nat}

/-- Clients stay where they are, and closed ones stay closed. -/
theorem Closed.after (closed : s.Closed n) (did : s.Does t s' notes) : s'.Closed n := by
  obtain ⟨c, there, shut⟩ := closed
  obtain ⟨inside, _⟩ := List.getElem?_eq_some_iff.mp there
  cases did with
  | made allowed missing made => exact ⟨c, by rw [List.getElem?_append_left inside, there], shut⟩
  | @tookOut k m name rest next found =>
    by_cases same : m = n
    · refine ⟨c.close, ?_, Client.close_closed c⟩
      simp [same, there]
    · refine ⟨c, ?_, shut⟩
      simp [same, there]
  | found | failed | inserted | began | disordered | passed | idle => exact ⟨c, there, shut⟩

theorem Closed.onward (closed : s.Closed n) (later : List RegistryTurn) : (s.run later).Closed n := by
  induction later generalizing s with
  | nil => exact closed
  | cons t rest ih => exact ih (closed.after (does s t))

/-- A reset that goes on once for each of its names returns. -/
theorem isReset_of_continued {k : Nat} {names : List String} (here : s.resets[k]? = some names) :
    (s.run (List.replicate names.length (.continueReset k))).isReset k = true := by
  induction names generalizing s with
  | nil => simp [run, isReset, here]
  | cons name rest ih =>
    obtain ⟨inside, _⟩ := List.getElem?_eq_some_iff.mp here
    have next : (s.step (.continueReset k)).1.resets[k]? = some rest := by
      rw [step, here]
      exact List.getElem?_set_self inside
    exact ih next

/-- What a reset found is closed, or the reset has still to take it out. -/
def Pends (s : SharedRegistry) (k : Nat) (clients : Table Nat) : Prop :=
  ∃ rest, s.resets[k]? = some rest ∧ ∀ name n, Table.get? name clients = some n →
    s.Closed n ∨ Table.get? name s.registry.clients = some n ∧ name ∈ rest

variable {k : Nat} {clients : Table Nat}

/-- A turn that leaves the resets as they are may only move clients on. -/
theorem Pends.same (h : Pends s k clients) (did : s.Does t s' notes) (resets : s'.resets = s.resets)
    (stay : ∀ name n, Table.get? name s.registry.clients = some n →
      Table.get? name s'.registry.clients = some n) : Pends s' k clients := by
  obtain ⟨rest, here, pending⟩ := h
  refine ⟨rest, by rw [resets, here], fun name n found => ?_⟩
  exact (pending name n found).imp (·.after did) fun waits => ⟨stay name n waits.1, waits.2⟩

/-- A reset that goes on leaves its next name behind, once the name's client is closed. -/
theorem Pends.advance (h : Pends s k clients) (did : s.Does t s' notes) {j : Nat} {out : String}
    {rest : List String} (next : s.resets[j]? = some (out :: rest)) (resets : s'.resets = s.resets.set j rest)
    (stay : ∀ name n, Table.get? name s.registry.clients = some n →
      s'.Closed n ∨ name ≠ out ∧ Table.get? name s'.registry.clients = some n) : Pends s' k clients := by
  obtain ⟨names, here, pending⟩ := h
  by_cases same : j = k
  · subst same
    obtain rfl := Option.some.inj (next.symm.trans here)
    obtain ⟨inside, _⟩ := List.getElem?_eq_some_iff.mp here
    refine ⟨rest, by rw [resets, List.getElem?_set_self inside], fun name n found => ?_⟩
    rcases pending name n found with closed | ⟨waits, among⟩
    · exact .inl (closed.after did)
    · refine (stay name n waits).imp id fun stays => ⟨stays.2, ?_⟩
      exact (List.mem_cons.mp among).resolve_left stays.1
  · refine ⟨names, by rw [resets, List.getElem?_set_ne same, here], fun name n found => ?_⟩
    rcases pending name n found with closed | ⟨waits, among⟩
    · exact .inl (closed.after did)
    · exact (stay name n waits).imp id fun stays => ⟨stays.2, among⟩

end

/-- What is handed out is what was handed out last, unless it was taken out since. -/
def Memoized (before : List RegistryNote) : RegistryNote → Prop
  | .got name (.ok n) => ∀ u m v, before = u ++ .got name (.ok m) :: v → .removed name ∉ v → m = n
  | _ => True

/-- A registry and its log agree. -/
structure Kept (settings : Settings) (s : SharedRegistry) (log : List RegistryNote) : Prop where
  settings : s.registry.settings = settings
  /-- Clients are there for allowed names only, each name's own and open. -/
  live : ∀ name n, Table.get? name s.registry.clients = some n →
    (name ∈ s.registry.allowed ∧ Client.Countable s.registry.settings) ∧
    ∃ c, s.registry.instances[n]? = some c ∧ c.name = name ∧ c.closed = false
  counted : ∀ name, s.built name = removals name log + if Table.has name s.registry.clients then 1 else 0
  /-- Who was given a client that was not taken out since was given the one that is there. -/
  given : ∀ u name n v, log = u ++ .got name (.ok n) :: v → .removed name ∉ v →
    Table.get? name s.registry.clients = some n
  /-- What a reset found is closed, or it has still to be taken out. -/
  pending : ∀ k clients, .began k clients ∈ log → ∃ rest, s.resets[k]? = some rest ∧
    ∀ name n, Table.get? name clients = some n →
      s.Closed n ∨ Table.get? name s.registry.clients = some n ∧ name ∈ rest
  memoized : Orderly Memoized log

namespace Kept

variable {settings : Settings} {s s' : SharedRegistry} {t : RegistryTurn} {log notes : List RegistryNote}

theorem live_step (h : Kept settings s log) (did : s.Does t s' notes) {name : String} {n : Nat}
    (found : Table.get? name s'.registry.clients = some n) :
    (name ∈ s'.registry.allowed ∧ Client.Countable s'.registry.settings) ∧
      ∃ c, s'.registry.instances[n]? = some c ∧ c.name = name ∧ c.closed = false := by
  cases did with
  | @made new c allowed missing made =>
    by_cases same : name = new
    · subst same
      obtain rfl := Option.some.inj ((Table.get?_insert_self ..).symm.trans found)
      obtain ⟨fits, named, opened⟩ := Client.ofSettings_ok made
      exact ⟨⟨allowed, fits⟩, c, List.getElem?_concat_length, named, opened⟩
    · rw [Table.get?_insert_of_ne same] at found
      obtain ⟨old, d, there, its⟩ := h.live name n found
      obtain ⟨inside, _⟩ := List.getElem?_eq_some_iff.mp there
      exact ⟨old, d, by rw [List.getElem?_append_left inside, there], its⟩
  | @tookOut k m out rest next known =>
    by_cases same : name = out
    · subst same
      rw [Table.get?_erase_self] at found
      cases found
    · rw [Table.get?_erase_of_ne same] at found
      obtain ⟨allowed, c, there, named, opened⟩ := h.live name n found
      obtain ⟨_, d, here, its, _⟩ := h.live out m known
      -- Each client has one name, so that another name's client is another.
      have other : m ≠ n := by
        rintro rfl
        rw [here] at there
        cases there
        exact same (named.symm.trans its)
      exact ⟨allowed, c, by simp [other, there], named, opened⟩
  | found | failed | inserted | began | disordered | passed | idle => exact h.live name n found

theorem counted_step (h : Kept settings s log) (did : s.Does t s' notes) (name : String) :
    s'.built name = removals name (log ++ notes) + if Table.has name s'.registry.clients then 1 else 0 := by
  have before := h.counted name
  rw [removals, List.countP_append, ← removals]
  cases did with
  | @made new c allowed missing made =>
    have named := (Client.ofSettings_ok made).2.1
    simp only [built, List.map_append, List.map_singleton, List.count_append, named] at before ⊢
    by_cases same : name = new
    · subst same
      simp [before, Table.has, missing, Table.get?_insert_self, RegistryNote.removes]
    · have has : Table.has name (Table.insert new s.registry.instances.length s.registry.clients) =
          Table.has name s.registry.clients := by rw [Table.has, Table.get?_insert_of_ne same, Table.has]
      simp [before, has, Ne.symm same, RegistryNote.removes]
  | @tookOut k m out rest next known =>
    simp only [built, map_close] at before ⊢
    by_cases same : name = out
    · subst same
      simp [before, Table.has, known, Table.get?_erase_self, RegistryNote.removes]
    · have has : Table.has name (Table.erase out s.registry.clients) =
          Table.has name s.registry.clients := by
        rw [Table.has, Table.get?_erase_of_ne same, Table.has]
      simp [before, has, Ne.symm same, RegistryNote.removes]
  | found | failed | inserted | began | disordered | passed | idle => exact before

/-- What somebody was given stays given by a note of something else. -/
theorem given_snoc (h : Kept settings s log) {e : RegistryNote}
    (old : ∀ name n, e ≠ .removed name → Table.get? name s.registry.clients = some n →
      Table.get? name s'.registry.clients = some n)
    (new : ∀ name n, e = .got name (.ok n) → Table.get? name s'.registry.clients = some n)
    {u v : List RegistryNote} {name : String} {n : Nat} (split : log ++ [e] = u ++ .got name (.ok n) :: v)
    (stays : .removed name ∉ v) : Table.get? name s'.registry.clients = some n := by
  obtain ⟨_, last, _⟩ | ⟨w, rfl, front⟩ := split_snoc split
  · exact new name n last
  · rw [List.mem_append, not_or] at stays
    refine old name n ?_ (h.given u name n w front stays.1)
    rintro rfl
    exact stays.2 (List.mem_singleton_self _)

theorem given_step (h : Kept settings s log) (did : s.Does t s' notes) {u v : List RegistryNote}
    {name : String} {n : Nat} (split : log ++ notes = u ++ .got name (.ok n) :: v)
    (stays : .removed name ∉ v) : Table.get? name s'.registry.clients = some n := by
  cases did with
  | @found asked m allowed found =>
    refine h.given_snoc (fun name n _ => id) (fun name n got => ?_) split stays
    cases got
    exact found
  | @made asked c allowed missing made =>
    refine h.given_snoc (fun name n _ known => ?_) (fun name n got => ?_) split stays
    · have other : name ≠ asked := by
        rintro rfl
        cases missing.symm.trans known
      rw [Table.get?_insert_of_ne other, known]
    · cases got
      exact Table.get?_insert_self ..
  | @tookOut k m out rest next found =>
    refine h.given_snoc (fun name n kept known => ?_) (fun name n got => by cases got) split stays
    have other : name ≠ out := by
      rintro rfl
      exact kept rfl
    rw [Table.get?_erase_of_ne other, known]
  | failed | began => exact h.given_snoc (fun name n _ => id) (fun name n got => by cases got) split stays
  | inserted | disordered | passed | idle =>
    rw [List.append_nil] at split
    exact h.given u name n v split stays

theorem pending_step (h : Kept settings s log) (did : s.Does t s' notes) {k : Nat} {clients : Table Nat}
    (began : .began k clients ∈ log ++ notes) : Pends s' k clients := by
  have before (note : ∀ clients, .began k clients ∉ notes) : Pends s k clients :=
    h.pending k clients ((List.mem_append.mp began).resolve_right (note clients))
  cases did with
  | found | failed | inserted | disordered | idle => exact before (by simp)
  | @made asked c allowed missing made =>
    refine (before (by simp)).same (.made allowed missing made) rfl fun name n known => ?_
    have other : name ≠ asked := by
      rintro rfl
      cases missing.symm.trans known
    rw [Table.get?_insert_of_ne other, known]
  | began perm =>
    rcases List.mem_append.mp began with old | new
    · obtain ⟨rest, here, pending⟩ := h.pending k clients old
      obtain ⟨inside, _⟩ := List.getElem?_eq_some_iff.mp here
      exact ⟨rest, by rw [List.getElem?_append_left inside, here], pending⟩
    · cases List.mem_singleton.mp new
      refine ⟨_, List.getElem?_concat_length, fun name n found => .inr ⟨found, ?_⟩⟩
      exact perm.mem_iff.mpr (Table.mem_keys.mpr ⟨n, found⟩)
  | @tookOut j m out rest next found =>
    refine (before (by simp)).advance (.tookOut next found) next rfl fun name n known => ?_
    by_cases same : name = out
    · subst same
      obtain rfl := Option.some.inj (found.symm.trans known)
      obtain ⟨_, c, there, _⟩ := h.live name m found
      exact .inl ⟨c.close, by simp [there], c.close_closed⟩
    · exact .inr ⟨same, by rw [Table.get?_erase_of_ne same, known]⟩
  | @passed j out rest next missing =>
    refine (before (by simp)).advance (.passed next missing) next rfl fun name n known => .inr ⟨?_, known⟩
    rintro rfl
    cases missing.symm.trans known

theorem memoized_step (h : Kept settings s log) (did : s.Does t s' notes) :
    Orderly Memoized (log ++ notes) := by
  cases did with
  | found allowed found =>
    refine h.memoized.snoc fun u m v split stays => ?_
    exact Option.some.inj ((h.given u _ m v split stays).symm.trans found)
  | made allowed missing made =>
    refine h.memoized.snoc fun u m v split stays => ?_
    cases (h.given u _ m v split stays).symm.trans missing
  | failed | began | tookOut => exact h.memoized.snoc trivial
  | inserted | disordered | passed | idle =>
    rw [List.append_nil]
    exact h.memoized

theorem step (h : Kept settings s log) (did : s.Does t s' notes) : Kept settings s' (log ++ notes) where
  settings := by
    cases did <;> exact h.settings
  live _ _ := h.live_step did
  counted := h.counted_step did
  given _ _ _ _ := h.given_step did
  pending _ _ := h.pending_step did
  memoized := h.memoized_step did

theorem run (settings : Settings) (turns : List RegistryTurn) :
    Kept settings (recorder.run { registry := { settings := settings } } turns).1
      (recorder.run { registry := { settings := settings } } turns).2 := by
  have empty : Kept settings { registry := { settings := settings } } [] := {
    settings := rfl
    live := fun name n found => by cases found
    counted := fun name => rfl
    given := fun u name n v split => by simp at split
    pending := fun k clients member => by cases member
    memoized := .nil }
  exact recorder.run_keeps (fun s log t kept => kept.step (does s t)) empty turns

/-- A client is there for a name exactly when it is declared and calls can be counted. -/
theorem served (h : Kept settings s log) (name : String) :
    (∃ n, (s.step (.get name)).2 = .client (.ok n)) ↔
      settings.Declares name ∧ Client.Countable settings := by
  rw [← Settings.mem_allowedServices, ← h.settings]
  change (∃ n, RegistryAnswer.client (s.registry.get name).1 = .client (.ok n)) ↔
    name ∈ s.registry.allowed ∧ Client.Countable s.registry.settings
  by_cases allowed : name ∈ s.registry.allowed
  · cases found : Table.get? name s.registry.clients with
    | some n =>
      have fits := (h.live name n found).1
      simp [Registry.get, found, fits]
    | none =>
      by_cases fits : Client.Countable s.registry.settings
      · obtain ⟨c, made⟩ := Client.ofSettings_of_countable name fits
        simp [Registry.get, allowed, found, made, fits]
      · have error : Client.ofSettings name s.registry.settings = .error .tooManyPermits :=
          if_pos (Nat.not_le.mp fits)
        simp [Registry.get, allowed, found, error, fits]
  · simp [Registry.get, allowed]

/-- Whoever is given a client is given an open one of the name asked for. -/
theorem opened (h : Kept settings s log) {name : String} {n : Nat}
    (answer : (s.step (.get name)).2 = .client (.ok n)) :
    ∃ c, (s.step (.get name)).1.registry.instances[n]? = some c ∧ c.name = name ∧ c.closed = false := by
  have did := does s (.get name)
  have noted : s.noted (.get name) = [.got name (.ok n)] := by
    rw [SharedRegistry.noted, answer]
  rw [noted] at did
  have after := h.step did
  exact (after.live name n (after.given log name n [] rfl List.not_mem_nil)).2

theorem onward (h : Kept settings s log) (later : List RegistryTurn) :
    ∃ log, Kept settings (s.run later) log := by
  induction later generalizing s log with
  | nil => exact ⟨log, h⟩
  | cons t rest ih => exact ih (h.step (does s t))

/-- What is closed is never handed out again. -/
theorem closed_stays (h : Kept settings s log) {n : Nat} (closed : s.Closed n) (later : List RegistryTurn)
    (name : String) : ((s.run later).step (.get name)).2 ≠ .client (.ok n) := by
  intro answer
  obtain ⟨log', kept⟩ := h.onward later
  obtain ⟨c, here, _, opened⟩ := kept.opened answer
  obtain ⟨d, there, shut⟩ := (closed.onward later).after (does _ (.get name))
  cases here.symm.trans there
  rw [shut] at opened
  cases opened

theorem closed_of_isReset (h : Kept settings s log) {k n : Nat} {clients : Table Nat} {name : String}
    (began : .began k clients ∈ log) (returned : s.isReset k = true)
    (found : Table.get? name clients = some n) : s.Closed n := by
  obtain ⟨rest, here, pending⟩ := h.pending k clients began
  rw [isReset, here] at returned
  obtain rfl : rest = [] := by simpa using returned
  exact (pending name n found).resolve_right fun waits => List.not_mem_nil waits.2

end Kept

/-- In whatever order the names come, a reset begins, and returns when it has gone on for each. -/
theorem begins_and_returns (s : SharedRegistry) {order : List String}
    (perm : order.Perm (Table.keys s.registry.clients)) :
    s.noted (.beginReset order) = [.began s.resets.length s.registry.clients] ∧
    ((s.step (.beginReset order)).1.run
      (List.replicate order.length (.continueReset s.resets.length))).isReset s.resets.length = true := by
  have began : (s.step (.beginReset order)).1 = { s with resets := s.resets ++ [order] } := by
    rw [step, if_pos (List.isPerm_iff.mpr perm)]
  refine ⟨if_pos (List.isPerm_iff.mpr perm), isReset_of_continued ?_⟩
  rw [began]
  exact List.getElem?_concat_length

/-! ### The promises -/

/-- The promises of a registry with these settings, whose state and log these are. -/
structure Sharing (settings : Settings) (s : SharedRegistry) (log : List RegistryNote) : Prop where
  /-- Those names have clients that settings declare, if any calls that are let in can be counted. -/
  served : ∀ name, (∃ n, (s.step (.get name)).2 = .client (.ok n)) ↔
    settings.Declares name ∧ Client.Countable settings
  declared : ∀ name ∈ Table.keys s.registry.clients, settings.Declares name
  /-- Everyone gets the same client for a name that is not taken out in between. -/
  memoized : ∀ u name m v n w, log = u ++ .got name (.ok m) :: v ++ .got name (.ok n) :: w →
    .removed name ∉ v → m = n
  /-- For each name, one client was built for each that was taken out, and one for that which is there. -/
  counted : ∀ name, s.built name = removals name log + if Table.has name s.registry.clients then 1 else 0
  /-- Nothing can be put into a registry. -/
  immutable : ∀ name, s.step (.insert name) = (s, .inserted (.error (.refused (.immutableRegistry name))))
  /-- No client that is there is closed. -/
  live : ∀ name n, Table.get? name s.registry.clients = some n →
    ∃ c, s.registry.instances[n]? = some c ∧ c.name = name ∧ c.closed = false
  /-- Whoever is given a client is given an open one of the name asked for. -/
  opened : ∀ name n, (s.step (.get name)).2 = .client (.ok n) →
    ∃ c, (s.step (.get name)).1.registry.instances[n]? = some c ∧ c.name = name ∧ c.closed = false
  /-- When a reset has returned, every client that it found is closed and nobody is given it again. -/
  reset : ∀ k clients, .began k clients ∈ log → s.isReset k = true →
    ∀ name n, Table.get? name clients = some n →
      s.Closed n ∧ ∀ later other, ((s.run later).step (.get other)).2 ≠ .client (.ok n)
  /-- A reset may begin at any time, in whatever order the names come, and returns when it has gone on for
  each of them. -/
  returns : ∀ order, order.Perm (Table.keys s.registry.clients) →
    s.noted (.beginReset order) = [.began s.resets.length s.registry.clients] ∧
    ((s.step (.beginReset order)).1.run
      (List.replicate order.length (.continueReset s.resets.length))).isReset s.resets.length = true

/-- A registry keeps its promises over every run. -/
theorem shares_clients (settings : Settings) (turns : List RegistryTurn) :
    Sharing settings (run { registry := { settings := settings } } turns)
      (recorder.run { registry := { settings := settings } } turns).2 := by
  rw [← recorder_run]
  have kept := Kept.run settings turns
  exact {
    served := kept.served
    declared := fun name member => by
      obtain ⟨n, found⟩ := Table.mem_keys.mp member
      have allowed := (kept.live name n found).1.1
      rw [Registry.allowed, kept.settings] at allowed
      exact Settings.mem_allowedServices.mp allowed
    memoized := fun u name m v n w split stays => kept.memoized _ _ _ split u m v rfl stays
    counted := kept.counted
    immutable := fun name => rfl
    live := fun name n found => (kept.live name n found).2
    opened := fun name n => kept.opened
    reset := fun k clients began returned name n found =>
      have closed := kept.closed_of_isReset began returned found
      ⟨closed, kept.closed_stays closed⟩
    returns := fun order perm => begins_and_returns _ perm }

/-- A registry whose settings let in too many calls hands out nothing, whatever it declares. -/
theorem overlarge_limits_serve_nothing :
    let settings : Settings := {
      connections := ["ledger"], concurrencyLimit := 3000000000000000000
      maxConnections := 3000000000000000000 }
    settings.Declares "ledger" ∧
      (step { registry := { settings := settings } } (.get "ledger")).2 =
        .client (.error (.breach .tooManyPermits)) := by
  refine ⟨⟨by decide, "ledger", by decide, by decide⟩, by rfl⟩

end SharedRegistry
end Courier
