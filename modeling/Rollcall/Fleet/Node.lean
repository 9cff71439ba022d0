import Rollcall.Fleet.Members
import Rollcall.Registry

/-!
# Nodes

A node is a registered instance with its heartbeat. It is registered first and sends its first
report only after that; on shutdown the heartbeat ends before the instance is deregistered.
-/
namespace Rollcall

structure Node where
  id : InstanceId
  service : String
  heartbeat : Nat
  deriving DecidableEq, Repr

namespace Node

variable {B : Type} [Backend B]

def defaultInterval : Nat := Registry.defaultHeartbeatInterval

def start (f : Fleet B) (id : InstanceId) (service address : String) (interval : Nat) :
    Except Error Node × Fleet B :=
  match f.perform (.register id service address) with
  | (.error e, f) => (.error e, f)
  | (.ok _, f) =>
    let (heartbeat, f) := f.startHeartbeat id service interval {}
    (.ok { id, service, heartbeat }, f)

def isRunning (n : Node) (f : Fleet B) : Bool := !f.heartbeatIsOver n.heartbeat

/-- Stop the heartbeat, then deregister. A failure to do so is left to the liveness window. -/
def shutdown (n : Node) (f : Fleet B) : Fleet B :=
  let f := (f.signalHeartbeat n.heartbeat (·.send true)).settle
  (f.perform (.deregister n.id n.service)).2

/-- Let go of a node without shutting it down: its heartbeat ends, its registration stays. -/
def abandon (n : Node) (f : Fleet B) : Fleet B :=
  f.signalHeartbeat n.heartbeat Signal.dropOwner

end Node

end Rollcall
