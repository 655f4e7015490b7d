import Courier.Document.Ini
import Courier.Document.Toml
import Courier.Document.Yaml
import Courier.Json.Parser
import Courier.Settings.Decode
import Courier.Settings.Dotenv
import Courier.Settings.Tree
/-!
The settings of a relay, from all their sources: what is built in, then a configuration file, then the
environment.  A file of variables adds to the environment and overrides nothing in it.  Settings that
cannot be read and settings that make no sense are refused for different reasons.  Here are `load` of
`DispatchSettings` and of `RelayConfig`.
-/
namespace Courier

structure RelaySettings where
  dispatch : Settings
  logLevel : String
  /-- Where traces are sent. -/
  collector : Option String
  deriving Repr

inductive LoadError where
  | unreadable
  | rejected (failure : Failure)
  deriving Repr

namespace Settings

mutual

/-- JSON with integers beyond 64 signed bits as doubles. -/
def narrow : Json → Json
  | .null => .null
  | .bool b => .bool b
  | .int n => if n ≤ Word.highest64 then .int n else .double (.ofInt n)
  | .double x => .double x
  | .str s => .str s
  | .arr items => .arr (narrowItems items)
  | .obj fields => .obj (narrowFields fields)
termination_by structural j => j

def narrowItems : List Json → List Json
  | [] => []
  | x :: xs => narrow x :: narrowItems xs
termination_by structural l => l

def narrowFields : List (String × Json) → List (String × Json)
  | [] => []
  | f :: fs => narrowField f :: narrowFields fs
termination_by structural l => l

def narrowField : String × Json → String × Json
  | (k, v) => (k, narrow v)
termination_by structural f => f

end

def readJson? (text : String) : Option Json := (Json.parseText? text).map narrow

/-- The configuration file under each of its names, with the notation that goes with the name. -/
def notations : List (String × (String → Option Json)) :=
  [("configuration.toml", Document.Toml.parse?), ("configuration.json", readJson?),
    ("configuration.yaml", Document.Yaml.parse?), ("configuration.yml", Document.Yaml.parse?),
    ("configuration.ini", Document.Ini.parse?)]

def bareName : String := "configuration"

def contentText (b : Bytes) : String :=
  match b with
  | 0xEF :: 0xBB :: 0xBF :: rest => Text.lossy rest
  | b => Text.lossy b

/-- The entries of the configuration file; none where there is no such file. -/
def fileSource (files : Table Bytes) : Except LoadError Fields :=
  if Table.has bareName files then .ok []
  else
    match notations.findSome? fun n => (Table.get? n.1 files).map fun b => (n.2, contentText b) with
    | none => .ok []
    | some (read, text) =>
      match read text with
      | some (.obj fields) => .ok fields
      | _ => .error .unreadable

def variablesName : String := ".env"

def withFile (vars : Variables) (files : Table Bytes) : Variables :=
  match (Table.get? variablesName files).bind Text.ofUtf8? with
  | some content => Dotenv.load vars content
  | none => vars

def validated (s : Settings) : Except LoadError Settings :=
  match s.validate with
  | .ok _ => .ok s
  | .error f => .error (.rejected f)

/-- What the sources say, one over the other. -/
def ofSources (file : Fields) (vars : Variables) : Except LoadError Settings :=
  let tree := Tree.addSource (Tree.addSource (.obj []) file) (Variables.source vars)
  match ofFields? .lenient tree.entries with
  | some s => validated s
  | none => .error .unreadable

end Settings

namespace RelaySettings

def defaultLogLevel : String := "info"

def load (vars : Settings.Variables) (files : Table Bytes) : Except LoadError RelaySettings := do
  let vars := Settings.withFile vars files
  let dispatch ← Settings.ofSources (← Settings.fileSource files) vars
  return { dispatch := dispatch
           logLevel := (vars.lookup "LOG_LEVEL").getD defaultLogLevel
           collector := (vars.lookup "OTLP_ENDPOINT").filter (· != "") }

end RelaySettings
end Courier
