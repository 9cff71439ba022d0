import Rollcall.Address
import Rollcall.Consul.Client
import Rollcall.Consul.Limits

/-!
# The registry of a Consul agent

Liveness is left to the agent: an instance is registered with a check that lapses unless it is
passed in time, a report passes the check, and resolution asks for the entries whose checks pass.
-/
namespace Rollcall.Consul

structure RegistrySettings where
  checkTtl : Nat := defaultCheckTtl
  deregisterCriticalAfter : Option Nat := none
  deriving DecidableEq, Repr

/-- A duration for the agent: whole seconds, at least one. -/
def durationText (d : Nat) : String := toString (max 1 (Duration.secs d)) ++ "s"

/-- The first field with a name, unless there are several. -/
def uniqueField (fields : List (String × Document)) (name : String) :
    Option (Option Document) :=
  match fields.filter (·.1 = name) with
  | [] => some none
  | [(_, d)] => some (some d)
  | _ => none

def textOr (default : String) : Option Document → Option String
  | none => some default
  | some (.text s) => some s
  | some _ => none

/-- What a health entry tells: the address of its node, if any, and the address and port of the
service. -/
structure HealthEntry where
  nodeAddress : Option String
  serviceAddress : String
  port : Nat
  deriving DecidableEq, Repr

namespace HealthEntry

def readNode : Document → Option (Option String)
  | .null => some none
  | .table fields => do
    let address ← uniqueField fields "Address"
    return some (← textOr "" address)
  | .list [] => some (some "")
  | .list [.text s] => some (some s)
  | _ => none

def readPort : Document → Option Nat
  | .int (.ofNat n) => if n ≤ Text.max16 then some n else none
  | _ => none

def readService : Document → Option (String × Nat)
  | .table fields => do
    let address ← textOr "" (← uniqueField fields "Address")
    let port ← (← uniqueField fields "Port").bind readPort
    return (address, port)
  | .list [.text s, port] => (readPort port).map fun p => (s, p)
  | _ => none

def ofParts (node service : Document) : Option HealthEntry := do
  let nodeAddress ← readNode node
  let (serviceAddress, port) ← readService service
  return { nodeAddress, serviceAddress, port }

def ofDocument : Document → Option HealthEntry
  | .table fields => do
    let node ← uniqueField fields "Node"
    let service ← uniqueField fields "Service"
    ofParts (node.getD .null) (← service)
  | .list [node, service] => ofParts node service
  | _ => none

/-- Where the service is reached: at its own address or else at that of its node. -/
def address (e : HealthEntry) : Option String :=
  let host := if e.serviceAddress = "" then e.nodeAddress.getD "" else e.serviceAddress
  if host = "" then none else some (host ++ ":" ++ toString e.port)

def listOfDocument : Document → Option (List HealthEntry)
  | .list items => items.mapM ofDocument
  | _ => none

end HealthEntry

def registration (s : RegistrySettings) (id : InstanceId) (service : String) (a : HostPort) :
    Document :=
  let after := match s.deregisterCriticalAfter with
    | none => []
    | some d => [("DeregisterCriticalServiceAfter", .text (durationText d))]
  .table [
    ("ID", .text id.text),
    ("Name", .text service),
    ("Address", .text a.host),
    ("Port", .nat a.port),
    ("Check", .table <|
      [("CheckID", .text id.text), ("TTL", .text (durationText s.checkTtl))] ++ after)]

/-- The error of a registration: internal, whatever led to it. -/
def registrationError (id : InstanceId) (e : Error) : Error :=
  if e.kind = .internal then e else .caused s!"failed to register {id} in Consul" e

open Http

def register (c : Client) (s : RegistrySettings) (id : InstanceId) (service address : String) :
    Plan Exchange (Except Error Unit) :=
  match HostPort.read address with
  | .error e => .done (.error e)
  | .ok a =>
    (c.put "v1/agent/service/register" (some (registration s id service a))).bind fun r =>
      .done <| match r with
        | .ok () => .ok ()
        | .error e => .error (registrationError id e)

/-- Deregister an instance, known to the agent or not. -/
def deregister (c : Client) (id : InstanceId) : Plan Exchange (Except Error Unit) :=
  (c.put s!"v1/agent/service/deregister/{id}" none).bind fun r =>
    .done <| match r with
      | .ok () => .ok ()
      | .error e => if e.kind = .notFound then .ok () else .error e

def report (c : Client) (id : InstanceId) (service : String) :
    Plan Exchange (Except Error Unit) :=
  (c.put s!"v1/agent/check/pass/{id}" none).bind fun r =>
    .done <| match r with
      | .ok () => .ok ()
      | .error e => .error (if e.kind = .notFound then .notRegistered id service else e)

def addressesOf (service : String) (entries : List HealthEntry) : Except Error (List String) :=
  match entries.filterMap HealthEntry.address with
  | [] => .error (.notFound (Error.noLiveInstances service))
  | addresses => .ok addresses

def addresses (c : Client) (service : String) : Plan Exchange (Except Error (List String)) :=
  (c.getJson s!"v1/health/service/{service}" [("passing", "true")]).bind fun r =>
    .done <| match r with
      | .error e => .error e
      | .ok d =>
        match HealthEntry.listOfDocument d with
        | none => .error .malformedJson
        | some entries => addressesOf service entries

end Rollcall.Consul
