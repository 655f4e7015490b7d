import Courier.Fault
import Courier.Text.Quoted
/-!
Failures of an application: a request it cannot accept, a fault of a service it calls, or trouble of its
own.  Internal trouble is shown with all its causes, one level of indentation deeper each time.  This is
`AppError` with its `into_response`.
-/
namespace Courier

/-- What went wrong, and in which undertakings: a root, wrapped by contexts. -/
inductive Cause where
  | message (text : String)
  | system (kind text : String)
  | context (text : String) (source : Cause)
  deriving Repr

namespace Cause

/-- A chain of texts, outermost first. -/
def ofChain : List String → Cause
  | [] => .message ""
  | [root] => .message root
  | outer :: rest => .context outer (ofChain rest)

/-- The outermost text. -/
def text : Cause → String
  | .message s => s
  | .system _ s => s
  | .context s _ => s

def indent : List Char := [' ', ' ', ' ', ' ']

/-- A heading with one indented line for each part; later lines of a part are indented as well. -/
def block (heading : String) (parts : List (String × List Char)) : List Char :=
  heading.toList ++ [' ', '{', '\n']
    ++ parts.flatMap (fun p =>
      (p.1.toList ++ ':' :: ' ' :: p.2 ++ [',']).foldl
        (fun acc c => acc ++ if c == '\n' then '\n' :: indent else [c]) indent ++ ['\n'])
    ++ ['}']

def chars : Cause → List Char
  | .message s => (Text.quoted s).toList
  | .system kind s =>
    block "Custom" [("kind", kind.toList), ("error", (Text.quoted s).toList)]
  | .context s source =>
    block "Error" [("context", (Text.quotedBoth s).toList), ("source", chars source)]

/-- Every cause, in layers. -/
def details (c : Cause) : String := String.ofList c.chars

end Cause

inductive Failure where
  | badRequest (cause : Cause)
  | internal (cause : Cause)
  | dispatch (fault : Fault)
  | configuration (cause : Cause)
  deriving Repr

namespace Failure

def text : Failure → String
  | .badRequest c => "Bad request: " ++ c.text
  | .internal c => "Internal server error: " ++ c.text
  | .dispatch f => "Downstream call failed: " ++ f.text
  | .configuration c => "Configuration error: " ++ c.text

/-- Faults of other services keep their own status and body. -/
def response : Failure → Http.Response
  | .badRequest c => .json .badRequest (.obj [("error", .str c.text)])
  | .internal c =>
    .json .internalError (.obj [("details", .str c.details), ("error", .str "Internal server error")])
  | .dispatch f => f.response
  | .configuration c =>
    .json .internalError (.obj [("details", .str c.text), ("error", .str "Configuration error")])

end Failure
end Courier
