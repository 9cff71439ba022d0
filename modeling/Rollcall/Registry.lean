import Rollcall.Address
import Rollcall.Data.SortedSet
import Rollcall.Data.Table
import Rollcall.Time

/-!
# The registry of live instances

For each service and instance id the registry keeps the address of the latest registration and the
instant of the latest sign of life. An instance is live while that sign is no older than the
liveness window, which includes its boundary. Records are never removed for being stale: a later
report revives them.
-/
namespace Rollcall

structure Record where
  address : String
  lastActive : Nat
  deriving DecidableEq, Repr

structure Registry where
  window : Nat
  records : Table (String × InstanceId) Record := .empty

namespace Registry

/-- How many heartbeat intervals an instance may stay silent. -/
def intervalsTolerated : Nat := 5
def defaultHeartbeatInterval : Nat := Duration.ofSecs 1

def withWindow (window : Nat) : Registry := { window := window }

/-- A registry for instances that report at the given interval. -/
def withHeartbeatInterval (interval : Nat) : Registry :=
  withWindow (Duration.scale interval intervalsTolerated)

def standard : Registry := withHeartbeatInterval defaultHeartbeatInterval

def isLive (r : Registry) (now : Nat) (record : Record) : Bool :=
  now - record.lastActive ≤ r.window

def register (r : Registry) (now : Nat) (id : InstanceId) (service address : String) :
    Except Error Unit × Registry :=
  match HostPort.read address with
  | .error e => (.error e, r)
  | .ok _ => (.ok (), { r with records := r.records.put (service, id) ⟨address, now⟩ })

/-- Forget an instance, known or not. -/
def deregister (r : Registry) (id : InstanceId) (service : String) : Registry :=
  { r with records := r.records.erase (service, id) }

/-- A sign of life, of a known instance only. -/
def report (r : Registry) (now : Nat) (id : InstanceId) (service : String) :
    Except Error Unit × Registry :=
  match r.records.get? (service, id) with
  | none => (.error (.notRegistered id service), r)
  | some record =>
    (.ok (), { r with records := r.records.put (service, id) { record with lastActive := now } })

/-- The records of a service. -/
def recordsOf (r : Registry) (service : String) : List Record :=
  (r.records.filter fun k _ => k.1 = service).values

/-- The addresses of the live instances of a service, in order and each once. -/
def liveAddresses (r : Registry) (now : Nat) (service : String) : List String :=
  SortedSet.ofList (((r.recordsOf service).filter (r.isLive now)).map (·.address))

def addresses (r : Registry) (now : Nat) (service : String) : Except Error (List String) :=
  match r.liveAddresses now service with
  | [] => .error (.notFound (Error.noLiveInstances service))
  | live => .ok live

end Registry

end Rollcall
