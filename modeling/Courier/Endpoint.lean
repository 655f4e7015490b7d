import Courier.Settings
/-!
Where a service is found.  A descriptor says what the settings know about a service; resolving it gives
an endpoint with its host and both ports.  The descriptor is `ServiceDescriptor` with `from_settings`
and `host`, `Descriptor.resolve` the `resolve` of `ConfigResolver`, and the endpoint is
`ResolvedEndpoint` with `http_base`, `tunnel_uri` and `request_path`.
-/
namespace Courier

structure Descriptor where
  name : String
  scheme : String
  /-- The word `name` in braces stands for the service's name. -/
  hostTemplate : String
  basePort : UInt16
  tunnelPortOffset : Int32
  apiVersion : String
  deriving DecidableEq, Repr

structure Endpoint where
  name : String
  scheme : String
  host : String
  httpPort : UInt16
  tunnelPort : UInt16
  apiVersion : String
  deriving DecidableEq, Repr

inductive ResolveError where
  | noAddress (service : String)
  | portOutOfRange (service : String) (port : Int)
  deriving DecidableEq, Repr

def ResolveError.text : ResolveError → String
  | .noAddress s => "no address for " ++ s
  | .portOutOfRange s port =>
    "tunnel port for " ++ s ++ " is out of range (" ++ toString port ++ ")"

namespace Descriptor

/-- Overrides of the service win over the shared settings. -/
def ofSettings (name : String) (s : Settings) : Descriptor :=
  let o := (Table.get? name s.services).getD default
  { name := name
    scheme := o.scheme.getD s.defaultScheme
    hostTemplate := o.host.getD s.hostTemplate
    basePort := o.port.getD s.port
    tunnelPortOffset := o.tunnelPortOffset.getD s.tunnelPortOffset
    apiVersion := s.apiVersion }

def host (d : Descriptor) : String := Text.replace d.hostTemplate "\x7bname\x7d" d.name

/-- From the descriptor alone: templated host, configured ports. -/
def resolve (d : Descriptor) : Except ResolveError Endpoint :=
  if Text.trim d.host == "" then .error (.noAddress d.name)
  else
    let n := (d.basePort.toNat : Int) + d.tunnelPortOffset.toInt
    match Settings.port? n with
    | none => .error (.portOutOfRange d.name n)
    | some p => .ok ⟨d.name, d.scheme, d.host, d.basePort, p, d.apiVersion⟩

end Descriptor

namespace Endpoint

def httpBase (e : Endpoint) : String :=
  e.scheme ++ "://" ++ e.host ++ ":" ++ toString e.httpPort.toNat

/-- The tunnel is never encrypted. -/
def tunnelAddress (e : Endpoint) : String := "http://" ++ e.host ++ ":" ++ toString e.tunnelPort.toNat

/-- Relative paths belong to the service's versioned interface, absolute ones are taken as they are. -/
def requestPath (e : Endpoint) (path : String) : String :=
  if Text.startsWith path "/" then path else "/api/" ++ e.apiVersion ++ "/" ++ path

end Endpoint
end Courier
