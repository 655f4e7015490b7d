import Courier.Request
import Courier.Proofs.Outbound
import Courier.Proofs.Outbound.Texts
import Courier.Proofs.Table
/-!
What a caller can do to the headers of a call.  Headers are set one by one, under names in any letter case;
the last value set for a name is the one that counts.  It arrives unless the name is protected or set here,
or the value or the name is illegal.  `Guarded` says so name by name.
-/
namespace Courier

open Http (Headers)
open Http.Headers (get?)

/-- The bytes of a text that is a legal value. -/
def Http.value? (text : String) : Option Bytes :=
  if isLegalValue (Text.utf8 text) then some (Text.utf8 text) else none

theorem Http.value?_of_visible {text : String} (visible : (Text.utf8 text).all isVisibleByte = true) :
    value? text = some (Text.utf8 text) := if_pos (isLegalValue_of_visible visible)

/-- The text is the name of a header, in some letter case. -/
def Http.IsName (name : String) : Prop := (headerName? name).isSome = true

theorem Http.IsName.stored {name : String} (isName : IsName name) :
    headerName? (Text.lower name) = some (Text.lower name) := by
  obtain ⟨n, stored⟩ := Option.isSome_iff_exists.mp isName
  obtain ⟨rfl, token, short⟩ := headerName?_stored stored
  exact headerName?_of_lower (Text.lower_lower name) token short

/-- An illegal value leaves what was there. -/
theorem Http.Headers.get?_tryInsertText (name text : String) (h : Headers) :
    get? name (tryInsertText name text h) = (value? text).or (get? name h) := by
  unfold value?
  cases legal : isLegalValue (Text.utf8 text) with
  | true => exact get?_tryInsertText_self legal h
  | false => rw [tryInsertText_of_illegal legal h, if_neg Bool.false_ne_true, Option.none_or]

namespace Trace

/-- A valid span writes its ids, and its state unless that is empty. -/
theorem inject_eq (active : Option Span) (h : Headers) :
    inject active h =
      match active.filter isValid with
      | none => h
      | some s =>
        if s.state = "" then h.tryInsertText parentHeader (parentText s)
        else (h.tryInsertText parentHeader (parentText s)).tryInsertText stateHeader s.state := by
  unfold inject current
  cases active with
  | none => rfl
  | some s =>
    rw [Option.bind_some, Option.filter_some]
    cases valid : isValid s with
    | false => rfl
    | true => by_cases stated : s.state = "" <;> simp [stated]

theorem get?_inject_parent (active : Option Span) (h : Headers) :
    get? parentHeader (inject active h) =
      ((active.filter isValid).map fun s => Text.utf8 (parentText s)).or (get? parentHeader h) := by
  rw [inject_eq]
  cases active.filter isValid with
  | none => rfl
  | some s =>
    have written : get? parentHeader (h.tryInsertText parentHeader (parentText s)) =
        some (Text.utf8 (parentText s)) := by
      rw [Headers.get?_tryInsertText, Http.value?_of_visible (parentText_visible s), Option.some_or]
    dsimp only
    split
    · exact written
    · exact (Headers.get?_tryInsertText_of_ne (by decide) ..).trans written

theorem get?_inject_stated (active : Option Span) (h : Headers) :
    get? stateHeader (inject active h) =
      ((active.filter isValid).bind fun s => if s.state = "" then none else Http.value? s.state).or
        (get? stateHeader h) := by
  rw [inject_eq]
  cases active.filter isValid with
  | none => rfl
  | some s =>
    have kept : get? stateHeader (h.tryInsertText parentHeader (parentText s)) = get? stateHeader h :=
      Headers.get?_tryInsertText_of_ne (by decide) ..
    rw [Option.bind_some]
    dsimp only
    split
    · exact kept
    · rw [Headers.get?_tryInsertText, kept]

end Trace

/-! ### What the caller set -/

namespace Request

/-- Set headers one after the other. -/
def setHeaders (sets : List (String × String)) (r : Request) : Request :=
  sets.foldl (fun r e => r.setHeader e.1 e.2) r

/-- The value set last for a name, in whatever letter case. -/
def lastSet? (name : String) (sets : List (String × String)) : Option String :=
  (sets.reverse.find? fun e => Text.lower e.1 == Text.lower name).map Prod.snd

theorem lastSet?_cons (name : String) (e : String × String) (rest : List (String × String)) :
    lastSet? name (e :: rest) =
      (lastSet? name rest).or (if Text.lower e.1 = Text.lower name then some e.2 else none) := by
  unfold lastSet?
  rw [List.reverse_cons, List.find?_append, Option.map_or]
  by_cases same : Text.lower e.1 = Text.lower name <;> simp [same]

theorem get?_setHeaders (name : String) (sets : List (String × String)) (r : Request) :
    Table.get? (Text.lower name) (r.setHeaders sets).headers =
      (lastSet? name sets).or (Table.get? (Text.lower name) r.headers) := by
  induction sets generalizing r with
  | nil => rfl
  | cons e rest ih =>
    rw [lastSet?_cons, setHeaders, List.foldl_cons, ← setHeaders, ih, setHeader, Option.or_assoc]
    by_cases same : Text.lower e.1 = Text.lower name
    · rw [if_pos same, same, Table.get?_insert_self, Option.some_or]
    · rw [if_neg same, Table.get?_insert_of_ne (Ne.symm same), Option.none_or]

/-- The headers of a request as they are set: each name once, in lower case. -/
structure Lowered (extra : Table String) : Prop where
  ordered : Table.Ordered extra
  lower : ∀ e ∈ extra, Text.lower e.1 = e.1

theorem lowered_setHeaders (sets : List (String × String)) {r : Request} (lowered : Lowered r.headers) :
    Lowered (r.setHeaders sets).headers := by
  induction sets generalizing r with
  | nil => exact lowered
  | cons e rest ih =>
    refine ih ⟨lowered.ordered.insert (Text.lower e.1) e.2, fun x member => ?_⟩
    rcases Table.mem_insert member with rfl | old
    · exact Text.lower_lower e.1
    · exact lowered.lower x old

end Request

namespace Outbound

open Request (Lowered lastSet?)

theorem get?_addExtra_of_ne {name : String} {e : String × String} (lower : Text.lower e.1 = e.1)
    (other : e.1 ≠ name) (h : Headers) : get? name (addExtra h e) = get? name h := by
  unfold addExtra
  split
  · rfl
  · split
    · next stored =>
      obtain ⟨rfl, _⟩ := Http.headerName?_stored stored
      exact Headers.get?_tryInsertText_of_ne (lower.symm ▸ Ne.symm other) ..
    · rfl

/-- Under a name that is protected, or that the caller does not set, nothing is added. -/
theorem get?_extras_of_kept {name : String} {extra : Table String}
    (lower : ∀ e ∈ extra, Text.lower e.1 = e.1)
    (kept : ∀ e ∈ extra, e.1 = name → protectedNames.contains e.1 = true) (h : Headers) :
    get? name (extra.foldl addExtra h) = get? name h := by
  induction extra generalizing h with
  | nil => rfl
  | cons e rest ih =>
    rw [List.forall_mem_cons] at lower kept
    rw [List.foldl_cons, ih lower.2 kept.2]
    by_cases same : e.1 = name
    · rw [addExtra, if_pos (kept.1 same)]
    · exact get?_addExtra_of_ne lower.1 same h

/-- Under any other name there is the caller's value, if it is legal. -/
theorem get?_extras {name : String} {extra : Table String} (lowered : Lowered extra)
    (free : protectedNames.contains name = false) (stored : Http.headerName? name = some name)
    (h : Headers) :
    get? name (extra.foldl addExtra h) = ((Table.get? name extra).bind Http.value?).or (get? name h) := by
  obtain ⟨ordered, lower⟩ := lowered
  induction extra generalizing h with
  | nil => rfl
  | cons e rest ih =>
    obtain ⟨n, value⟩ := e
    rw [List.forall_mem_cons] at lower
    rw [Table.Ordered, Table.keys, List.map_cons, List.pairwise_cons] at ordered
    rw [List.foldl_cons, Table.get?]
    by_cases same : n = name
    · subst same
      -- no later entry has this name
      have absent : ∀ e ∈ rest, e.1 = n → protectedNames.contains e.1 = true := by
        rintro e member rfl
        exact absurd (ordered.1 e.1 (List.mem_map_of_mem member)) (String.lt_irrefl e.1)
      rw [get?_extras_of_kept lower.2 absent, if_pos rfl, Option.bind_some, addExtra,
        if_neg (by rw [free]; exact Bool.false_ne_true), stored]
      exact Headers.get?_tryInsertText n value h
    · rw [if_neg same, ih _ ordered.2 lower.2, get?_addExtra_of_ne lower.1 same]

/-- A protected name carries nothing from the caller. -/
theorem get?_extras_protected {name : String} {extra : Table String} (lowered : Lowered extra)
    (isProtected : protectedNames.contains name = true) : get? name (extra.foldl addExtra []) = none := by
  refine get?_extras_of_kept lowered.lower ?_ []
  rintro e _ rfl
  exact isProtected

/-! ### What is set here -/

section Own

variable (context : Context) (token : String) (multipart : Bool) (extra : Table String)
  (active : Option Span) (date : String)

theorem date_headers :
    get? "date" (headers context token multipart extra active date) =
      (Http.value? date).or (get? "date" (extra.foldl addExtra [])) := by
  unfold headers Trace.injectWithId
  simp (disch := decide) only [Headers.get?_tryInsertText_of_ne, Trace.get?_inject_of_ne,
    get?_defaulted_of_ne]
  exact Headers.get?_tryInsertText ..

theorem authorization_headers :
    get? "authorization" (headers context token multipart extra active date) =
      (Http.value? (bearer token)).or (get? "authorization" (extra.foldl addExtra [])) := by
  unfold headers Trace.injectWithId
  simp (disch := decide) only [Headers.get?_tryInsertText_of_ne, Trace.get?_inject_of_ne,
    get?_defaulted_of_ne]
  rw [Headers.get?_tryInsertText, Headers.get?_tryInsertText_of_ne (by decide)]

theorem accept_headers :
    get? "accept" (headers context token multipart extra active date) =
      some ((get? "accept" (extra.foldl addExtra [])).getD (Text.utf8 jsonType)) := by
  have defaulted : ∀ h : Headers,
      get? "accept" (if h.has "accept" then h else h.insertText "accept" jsonType) =
        some ((get? "accept" h).getD (Text.utf8 jsonType)) := by
    intro h
    unfold Headers.has
    cases found : get? "accept" h with
    | some v => exact found
    | none => exact Headers.get?_insert_self ..
  unfold headers Trace.injectWithId
  simp (disch := decide) only [Headers.get?_tryInsertText_of_ne, Trace.get?_inject_of_ne]
  rw [get?_defaulted_of_ne (by decide), defaulted]
  simp (disch := decide) only [Headers.get?_tryInsertText_of_ne]

/-- A body in parts leaves the content type to the transport. -/
theorem typed_headers :
    get? "content-type" (headers context token multipart extra active date) =
      if multipart then get? "content-type" (extra.foldl addExtra []) else some (Text.utf8 jsonType) := by
  cases multipart with
  | false => exact contentType_headers context token extra active date
  | true =>
    unfold headers Trace.injectWithId
    simp (disch := decide) only [Headers.get?_tryInsertText_of_ne, Trace.get?_inject_of_ne,
      get?_defaulted_of_ne, if_true]

theorem parent_headers :
    get? Trace.parentHeader (headers context token multipart extra active date) =
      ((active.filter Trace.isValid).map fun s => Text.utf8 (Trace.parentText s)).or
        (get? Trace.parentHeader (extra.foldl addExtra [])) := by
  unfold headers Trace.injectWithId
  rw [Headers.get?_tryInsertText_of_ne (by decide), Trace.get?_inject_parent]
  simp (disch := decide) only [Headers.get?_tryInsertText_of_ne, get?_defaulted_of_ne]

theorem stated_headers :
    get? Trace.stateHeader (headers context token multipart extra active date) =
      ((active.filter Trace.isValid).bind fun s => if s.state = "" then none else Http.value? s.state).or
        (get? Trace.stateHeader (extra.foldl addExtra [])) := by
  unfold headers Trace.injectWithId
  rw [Headers.get?_tryInsertText_of_ne (by decide), Trace.get?_inject_stated]
  simp (disch := decide) only [Headers.get?_tryInsertText_of_ne, get?_defaulted_of_ne]

theorem identified_headers :
    get? Context.requestIdHeader (headers context token multipart extra active date) =
      (Http.value? context.correlation).or (get? Context.requestIdHeader (extra.foldl addExtra [])) := by
  unfold headers Trace.injectWithId
  rw [Headers.get?_tryInsertText]
  simp (disch := decide) only [Headers.get?_tryInsertText_of_ne, Trace.get?_inject_of_ne,
    get?_defaulted_of_ne]

end Own

/-- Names that the caller cannot set, or that have a rule of their own. -/
def settledNames : List String := "host" :: "content-length" :: ownNames

/-- The headers that a call has to have when the caller set these.  `Named` are the names under which the
caller's values arrive. -/
structure Guarded (Named : String → Prop) (context : Context) (token : String) (multipart : Bool)
    (active : Option Span) (seconds : Int) (sets : List (String × String)) (h : Headers) : Prop where
  once : (h.map Prod.fst).Nodup
  signed : get? "authorization" h = some (Text.utf8 ("Bearer " ++ token))
  claimed : Json.Plain Json.IsInt Json.nestingLimit (.obj context.callerUser) →
    (h.text? Claims.userHeader).bind Claims.decode? = some context.callerUser
  identified : get? Context.requestIdHeader h = Http.value? context.correlation
  typed : get? "content-type" h = if multipart then none else some (Text.utf8 "application/json")
  hostless : get? "host" h = none
  unmeasured : get? "content-length" h = none
  traced : get? Trace.parentHeader h =
    (active.filter Trace.isValid).map fun s => Text.utf8 (Trace.parentText s)
  stated : get? Trace.stateHeader h =
    (active.filter Trace.isValid).bind fun s => if s.state = "" then none else Http.value? s.state
  dated : get? "date" h = some (Text.utf8 (Http.Date.text seconds))
  accepted : get? "accept" h =
    some (((lastSet? "accept" sets).bind Http.value?).getD (Text.utf8 "application/json"))
  others : ∀ name, Named name → Text.lower name ∉ settledNames →
    get? (Text.lower name) h = (lastSet? name sets).bind Http.value?

section Guard

variable (context : Context) (token : String) (multipart : Bool) (active : Option Span) (seconds : Int)
  (method path : String) (sets : List (String × String))

/-- The headers of a call for which the caller set these. -/
def sent : Headers :=
  headers context token multipart (Request.setHeaders sets { method := method, path := path }).headers active
    (Http.Date.text seconds)

theorem lowered_sent : Lowered (Request.setHeaders sets { method := method, path := path }).headers :=
  Request.lowered_setHeaders sets ⟨.nil, nofun⟩

/-- Under a name that may be added there is the caller's last value, if it is legal. -/
theorem get?_sent_extras (name : String) (isName : Http.IsName name)
    (free : protectedNames.contains (Text.lower name) = false) :
    get? (Text.lower name)
        ((Request.setHeaders sets { method := method, path := path }).headers.foldl addExtra []) =
      (lastSet? name sets).bind Http.value? := by
  rw [get?_extras (lowered_sent method path sets) free isName.stored, Request.get?_setHeaders]
  exact (Option.or_none ..).trans (congrArg (Option.bind · Http.value?) (Option.or_none ..))

/-- Every name is the name of a header, as it is stored. -/
theorem sent_named :
    ∀ e ∈ sent context token multipart active seconds method path sets, Http.headerName? e.1 = some e.1 := by
  have own : ∀ name ∈ ownNames, Http.headerName? name = some name := by decide +kernel
  refine headers_all _ _ _ _ _ _ {
    added := fun e _ _ name stored _ => ?_
    dated := own "date" (by decide)
    signed := own "authorization" (by decide)
    claimed := own Claims.userHeader (by decide)
    accepted := own "accept" (by decide)
    typed := fun _ => own "content-type" (by decide)
    traced := fun _ _ => own Trace.parentHeader (by decide)
    stated := fun _ _ _ => own Trace.stateHeader (by decide)
    identified := own Context.requestIdHeader (by decide) }
  obtain ⟨rfl, _⟩ := Http.headerName?_stored stored
  exact Http.IsName.stored (Option.isSome_iff_exists.mpr ⟨_, stored⟩)

/-- Whatever the caller sets, the headers are guarded; the caller's values arrive under the names of headers,
and no other text is a name among them. -/
theorem headers_guarded (visible : (Text.utf8 token).all Http.isVisibleByte = true) :
    Guarded Http.IsName context token multipart active seconds sets
        (sent context token multipart active seconds method path sets) ∧
      ∀ e ∈ sent context token multipart active seconds method path sets,
        Http.headerName? e.1 = some e.1 := by
  have kept : ∀ name, protectedNames.contains name = true → get? name
      ((Request.setHeaders sets { method := method, path := path }).headers.foldl addExtra []) = none :=
    fun name => get?_extras_protected (lowered_sent method path sets)
  have bearing : (Text.utf8 (bearer token)).all Http.isVisibleByte = true :=
    Http.all_visible_append (by decide +kernel) visible
  have named := sent_named context token multipart active seconds method path sets
  refine ⟨{
    once := (headers_canonical ..).distinct
    signed := ?signed
    claimed := fun plain => ?claimed
    identified := ?identified
    typed := ?typed
    hostless := ?hostless
    unmeasured := ?unmeasured
    traced := ?traced
    stated := ?stated
    dated := ?dated
    accepted := ?accepted
    others := fun name isName other => ?others }, named⟩
  case signed =>
    rw [sent, authorization_headers, Http.value?_of_visible bearing, Option.some_or, bearer]
  case claimed =>
    rw [Headers.text?, sent, user_headers, Option.bind_some,
      Http.visible?_iff.mpr ⟨Claims.encode_visible _, rfl⟩, Option.bind_some]
    exact Claims.decode?_encode_integers plain
  case identified => rw [sent, identified_headers, kept _ (by decide), Option.or_none]
  case typed => rw [sent, typed_headers, kept _ (by decide), jsonType]
  case hostless => rw [sent, added_headers _ _ _ _ _ _ (by decide), kept _ (by decide)]
  case unmeasured => rw [sent, added_headers _ _ _ _ _ _ (by decide), kept _ (by decide)]
  case traced => rw [sent, parent_headers, kept _ (by decide), Option.or_none]
  case stated => rw [sent, stated_headers, kept _ (by decide), Option.or_none]
  case dated => rw [sent, date_headers, Http.value?_of_visible (Http.Date.text_visible seconds), Option.some_or]
  case accepted =>
    have accept : Http.IsName "accept" := show (Http.headerName? "accept").isSome = true by decide
    have set := get?_sent_extras method path sets "accept" accept (by decide)
    rw [sent, accept_headers, jsonType]
    exact congrArg (fun v => some (Option.getD v _)) set
  case others =>
    have covered : ∀ n ∈ protectedNames, n ∈ settledNames := by decide
    have free : protectedNames.contains (Text.lower name) = false := by
      rw [List.contains_eq_mem, decide_eq_false_iff_not]
      exact fun isProtected => other (covered _ isProtected)
    have foreign : Text.lower name ∉ ownNames := fun own =>
      other (List.mem_cons_of_mem _ (List.mem_cons_of_mem _ own))
    rw [sent, added_headers _ _ _ _ _ _ foreign]
    exact get?_sent_extras method path sets name isName free

end Guard

/-- The caller passes itself off as another, and sets one name twice. -/
def forged : List (String × String) :=
  [("Authorization", "Bearer forged"), ("X-CALLER-USER", "e30="), ("X-Tenant", "acme"), ("Accept", "text/csv"),
    ("x-tenant", "other")]

def onBehalf : Context := { correlationId := "req-1", callerUser := [("sub", .str "user-1")] }

def tracing : Span := { traceId := 1, spanId := 2, flags := 1, state := "vendor=1" }

theorem forged_is_guarded :
    let h := sent onBehalf "tok" false (some tracing) 0 "POST" "echo" forged
    get? "authorization" h = some (Text.utf8 "Bearer tok") ∧
      (h.text? Claims.userHeader).bind Claims.decode? = some [("sub", .str "user-1")] ∧
      get? "accept" h = some (Text.utf8 "text/csv") ∧ get? "x-tenant" h = some (Text.utf8 "other") := by
  have visible : (Text.utf8 "tok").all Http.isVisibleByte = true := by decide
  obtain ⟨guarded, _⟩ := headers_guarded onBehalf "tok" false (some tracing) 0 "POST" "echo" forged visible
  have plain : Json.Plain Json.IsInt Json.nestingLimit (.obj onBehalf.callerUser) :=
    .obj (List.pairwise_singleton ..) (List.forall_mem_singleton.mpr (.str "user-1"))
  refine ⟨guarded.signed, guarded.claimed plain, guarded.accepted.trans ?_, ?_⟩
  · decide
  · have tenant : Http.IsName "X-Tenant" := show (Http.headerName? "X-Tenant").isSome = true by decide
    exact (guarded.others "X-Tenant" tenant (by decide)).trans (by decide)

/-- A text that is not the name of a header does not arrive, whatever its value. -/
theorem unnamed_is_dropped :
    ¬ ∀ (context : Context) (token : String) (multipart : Bool) (active : Option Span) (seconds : Int)
      (method path : String) (sets : List (String × String)),
      (Text.utf8 token).all Http.isVisibleByte = true →
        Guarded (fun _ => True) context token multipart active seconds sets
          (sent context token multipart active seconds method path sets) := by
  intro always
  have guarded := always {} "tok" false none 0 "POST" "echo" [("bad name", "x")] (by decide)
  have arrived : get? "bad name" (sent {} "tok" false none 0 "POST" "echo" [("bad name", "x")]) =
      some (Text.utf8 "x") := guarded.others "bad name" trivial (by decide)
  have named := sent_named _ _ _ _ _ _ _ _ _ (Headers.mem_of_get? arrived)
  exact absurd named (show ¬ Http.headerName? "bad name" = some "bad name" by decide)

end Outbound
end Courier
