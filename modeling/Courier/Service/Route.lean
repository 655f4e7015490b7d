import Courier.Form
import Courier.Service
import Courier.Text.Quoted
/-!
Routes.  A path is matched piece by piece between its slashes, as it was written; what a pattern leaves
open is captured and decoded only by the service that asks for it.  A captured piece may be empty, but not
at the end of a path.
-/
namespace Courier

/-- One place of a pattern. -/
inductive Segment where
  | literal (text : String)
  | piece (name : String)
  /-- All that is left, slashes included. -/
  | remainder (name : String)
  deriving DecidableEq, Repr

structure Capture where
  name : String
  raw : List Char
  deriving DecidableEq, Repr

namespace Segment

def joinSlash : List (List Char) → List Char
  | [] => []
  | [p] => p
  | p :: q :: more => p ++ '/' :: joinSlash (q :: more)

/-- What a pattern captures of the pieces of a path. -/
def captures? : List Segment → List (List Char) → Option (List Capture)
  | [], [] => some []
  | [.piece name], [p] => if p.isEmpty then none else some [⟨name, p⟩]
  | [.remainder name], p :: more =>
    let raw := joinSlash (p :: more)
    if raw.isEmpty then none else some [⟨name, raw⟩]
  | .literal text :: pattern, p :: more =>
    if p == text.toList then captures? pattern more else none
  | .piece name :: pattern, p :: more => (captures? pattern more).map (⟨name, p⟩ :: ·)
  | _, _ => none

/-- The pieces of a path that starts with a slash. -/
def pieces? (path : String) : Option (List (List Char)) :=
  match path.toList with
  | '/' :: rest => some (Text.splitOn '/' rest)
  | _ => none

end Segment

/-- Why a captured piece cannot be used. -/
inductive CaptureError where
  | notText (name : String)
  | notNumber (text : String) (bits : Nat)
  deriving DecidableEq, Repr

namespace CaptureError

def text : CaptureError → String
  | .notText name => "Invalid URL: Invalid UTF-8 in \x60" ++ name ++ "\x60"
  | .notNumber t bits =>
    "Invalid URL: Cannot parse \x60" ++ Text.quoted t ++ "\x60 to a \x60u" ++ toString bits ++ "\x60"

def response (e : CaptureError) : Http.Response := .plain .badRequest e.text

end CaptureError

namespace Capture

def text? (c : Capture) : Except CaptureError String :=
  match Text.ofUtf8? (Form.percentDecode (Text.utf8 (String.ofList c.raw))) with
  | some s => .ok s
  | none => .error (.notText c.name)

/-- Every captured piece as text; the first that is not text is the one complained of. -/
def texts (cs : List Capture) : Except CaptureError (List String) := cs.mapM text?

/-- Digits, after a plus sign or none. -/
def digits? (s : List Char) : Option Nat :=
  let ds := match s with
    | '+' :: rest => rest
    | _ => s
  if ds.isEmpty || !ds.all Text.isDigit then none else some (Text.natOfDigits ds)

/-- The number in the only captured piece. -/
def number (bits : Nat) (cs : List Capture) : Except CaptureError Nat := do
  let text := (← texts cs).headD ""
  match digits? text.toList with
  | some n => if n < Nat.pow 2 bits then .ok n else .error (.notNumber text bits)
  | none => .error (.notNumber text bits)

end Capture

/-- The methods that a route serves. -/
inductive Methods where
  | any | get | post
  deriving DecidableEq, Repr

namespace Methods

def headMethod : String := "HEAD"

/-- Whatever can be got can be asked for its head. -/
def allows (m : Methods) (method : String) : Bool :=
  match m with
  | .any => true
  | .get => method == "GET" || method == headMethod
  | .post => method == "POST"

/-- The methods, as a refusal lists them. -/
def allowText : Methods → String
  | .any => ""
  | .get => "GET,HEAD"
  | .post => "POST"

end Methods

structure Route (σ : Type) where
  pattern : List Segment
  methods : Methods
  handler : List Capture → Service σ
  /-- Serves the methods that the route does not. -/
  refusal : Service σ := Service.respond (.empty .methodNotAllowed)

structure Router (σ : Type) where
  routes : List (Route σ)
  fallback : Service σ := Service.respond (.empty .notFound)

namespace Router

variable {σ : Type}

/-- Put a layer around everything that a router may run. -/
def layered (layer : Layer σ) (router : Router σ) : Router σ where
  routes := router.routes.map fun route =>
    { route with handler := fun cs => layer (route.handler cs), refusal := layer route.refusal }
  fallback := layer router.fallback

def withFallback (service : Service σ) (router : Router σ) : Router σ :=
  { router with fallback := service }

def dropBody (v : Served) : Served := { v with response := { v.response with body := [] } }

def addAllow (m : Methods) (v : Served) : Served :=
  { v with response := { v.response with
      headers := v.response.headers.insertText "allow" m.allowText } }

def runRoute (route : Route σ) (cs : List Capture) : Service σ := fun r s =>
  if route.methods.allows r.method then
    let (ending, s) := route.handler cs r s
    if route.methods == .get && r.method == Methods.headMethod then (ending.map dropBody, s)
    else (ending, s)
  else
    let (ending, s) := route.refusal r s
    (ending.map (addAllow route.methods), s)

/-- The first route whose pattern fits the path. -/
def find? (path : String) (routes : List (Route σ)) : Option (Route σ × List Capture) :=
  (Segment.pieces? path).bind fun pieces =>
    routes.findSome? fun route => (Segment.captures? route.pattern pieces).map fun cs => (route, cs)

def service (router : Router σ) : Service σ := fun r s =>
  match find? r.uri.path router.routes with
  | some (route, cs) => runRoute route cs r s
  | none => router.fallback r s

end Router
end Courier
