import Rollcall.Consul.Limits
import Rollcall.Processor
import Rollcall.Registry
import Rollcall.Retry

/-!
# Configuration

The settings of a node come in five sections. Durations are kept in the units in which they are
written; the definitions below turn them into durations.
-/
namespace Rollcall

structure NodeSettings where
  serviceName : String := "movie"
  advertiseAddress : String := "localhost:8083"
  heartbeatIntervalSecs : Nat := 1
  deriving DecidableEq, Repr

inductive BackendChoice where
  | memory
  | consul
  deriving DecidableEq, Repr

namespace BackendChoice

def name : BackendChoice → String
  | memory => "memory"
  | consul => "consul"

def ofName? (s : String) : Option BackendChoice :=
  if s = "memory" then some memory else if s = "consul" then some consul else none

@[simp] theorem ofName?_name (b : BackendChoice) : ofName? b.name = some b := by
  cases b <;> rfl

end BackendChoice

structure DiscoverySettings where
  backend : BackendChoice := .consul
  consulAddress : String := Consul.defaultAddress
  checkTtlSecs : Nat := 5
  /-- How long an instance may be critical before the agent removes it. -/
  deregisterCriticalAfterSecs : Option Nat := none
  /-- How many heartbeat intervals the liveness window in memory spans. -/
  livenessMultiplier : Nat := Registry.intervalsTolerated
  requestTimeoutSecs : Nat := 10
  deriving DecidableEq, Repr

structure LockSettings where
  enabled : Bool := false
  key : String := Processor.Settings.standard.lockKey
  sessionTtlSecs : Nat := 10
  retryBackoffSecs : Nat := 10
  workTimeoutSecs : Nat := 300
  runIntervalSecs : Nat := 10
  watchServices : List String := ["metadata", "rating"]
  deriving DecidableEq, Repr

structure RetrySettings where
  maxAttempts : Nat := 5
  intervalMs : Nat := 1000
  deriving DecidableEq, Repr

structure LoggingSettings where
  level : String := "info"
  format : String := "text"
  deriving DecidableEq, Repr

structure Config where
  node : NodeSettings := {}
  discovery : DiscoverySettings := {}
  lock : LockSettings := {}
  retry : RetrySettings := {}
  logging : LoggingSettings := {}
  deriving DecidableEq, Repr

namespace Config

def standard : Config := {}

def maxHeartbeatSecs : Nat := 3600

variable (c : Config)

def heartbeatInterval : Nat := Duration.ofSecs c.node.heartbeatIntervalSecs

/-- The liveness window of a registry in memory. -/
def livenessWindow : Nat := Duration.scale c.heartbeatInterval c.discovery.livenessMultiplier

def checkTtl : Nat := Duration.ofSecs c.discovery.checkTtlSecs

def deregisterCriticalAfter : Option Nat :=
  c.discovery.deregisterCriticalAfterSecs.map Duration.ofSecs

def requestTimeout : Nat := Duration.ofSecs c.discovery.requestTimeoutSecs

def sessionTtl : Nat := Duration.ofSecs c.lock.sessionTtlSecs

def processorSettings : Processor.Settings where
  lockKey := c.lock.key
  retryBackoff := Duration.ofSecs c.lock.retryBackoffSecs
  workTimeout := Duration.ofSecs c.lock.workTimeoutSecs
  runInterval := Duration.ofSecs c.lock.runIntervalSecs

def retryPolicy : RetryPolicy :=
  .make c.retry.maxAttempts (Duration.ofMillis c.retry.intervalMs)

def memoryRegistry : Registry := .withWindow c.livenessWindow

end Config

end Rollcall
