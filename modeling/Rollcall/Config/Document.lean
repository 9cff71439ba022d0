import Rollcall.Config.Basic
import Rollcall.Document.Basic

/-!
# Configuration from documents

A document sets the fields that it names and leaves all others at their defaults; names that mean
nothing are passed over. A section is a table, or a list of its fields in order from which the last
ones may be missing. A value that does not fit its field spoils the whole document.
-/
namespace Rollcall

namespace Document

def asText : Document → Option String
  | text s => some s
  | _ => none

def asBool : Document → Option Bool
  | bool b => some b
  | _ => none

def asNat (bound : Nat) : Document → Option Nat
  | int (.ofNat n) => if n ≤ bound then some n else none
  | _ => none

def asNatOrNull (bound : Nat) : Document → Option (Option Nat)
  | null => some none
  | d => (d.asNat bound).map some

def asTexts : Document → Option (List String)
  | list items => items.mapM asText
  | _ => none

/-- A choice is the name of a backend, or a table that maps the name to nothing. -/
def asBackend : Document → Option BackendChoice
  | text s => BackendChoice.ofName? s
  | table [(s, value)] =>
    match value with
    | null | table [] | list [] => BackendChoice.ofName? s
    | _ => none
  | _ => none

def isSection : Document → Bool
  | table _ | list _ | moment _ => true
  | _ => false

/-- What a section holds for the field with the given place and name. -/
def slot (d : Document) (place : Nat) (name : String) : Option Document :=
  match d with
  | table fields => fields.lookup name
  | list items => items[place]?
  | _ => none

/-- Read a field that has a default. -/
def fieldOr {α : Type} (d : Document) (place : Nat) (name : String) (default : α)
    (as : Document → Option α) : Option α :=
  match d.slot place name with
  | none => some default
  | some value => as value

end Document

open Document Text

namespace NodeSettings

def ofDocument (d : Document) : Option NodeSettings := do
  guard d.isSection
  let z : NodeSettings := {}
  return {
    serviceName := ← d.fieldOr 0 "service_name" z.serviceName asText
    advertiseAddress := ← d.fieldOr 1 "advertise_address" z.advertiseAddress asText
    heartbeatIntervalSecs :=
      ← d.fieldOr 2 "heartbeat_interval_secs" z.heartbeatIntervalSecs (asNat max64) }

def toDocument (s : NodeSettings) : Document :=
  .table [
    ("service_name", .text s.serviceName),
    ("advertise_address", .text s.advertiseAddress),
    ("heartbeat_interval_secs", .nat s.heartbeatIntervalSecs)]

end NodeSettings

namespace DiscoverySettings

def ofDocument (d : Document) : Option DiscoverySettings := do
  guard d.isSection
  let z : DiscoverySettings := {}
  return {
    backend := ← d.fieldOr 0 "backend" z.backend asBackend
    consulAddress := ← d.fieldOr 1 "consul_address" z.consulAddress asText
    checkTtlSecs := ← d.fieldOr 2 "check_ttl_secs" z.checkTtlSecs (asNat max64)
    deregisterCriticalAfterSecs :=
      ← d.fieldOr 3 "deregister_critical_after_secs" z.deregisterCriticalAfterSecs
        (asNatOrNull max64)
    livenessMultiplier :=
      ← d.fieldOr 4 "liveness_multiplier" z.livenessMultiplier (asNat max32)
    requestTimeoutSecs :=
      ← d.fieldOr 5 "request_timeout_secs" z.requestTimeoutSecs (asNat max64) }

def toDocument (s : DiscoverySettings) : Document :=
  .table [
    ("backend", .text s.backend.name),
    ("consul_address", .text s.consulAddress),
    ("check_ttl_secs", .nat s.checkTtlSecs),
    ("deregister_critical_after_secs", .ofOption .nat s.deregisterCriticalAfterSecs),
    ("liveness_multiplier", .nat s.livenessMultiplier),
    ("request_timeout_secs", .nat s.requestTimeoutSecs)]

end DiscoverySettings

namespace LockSettings

def ofDocument (d : Document) : Option LockSettings := do
  guard d.isSection
  let z : LockSettings := {}
  return {
    enabled := ← d.fieldOr 0 "enabled" z.enabled asBool
    key := ← d.fieldOr 1 "key" z.key asText
    sessionTtlSecs := ← d.fieldOr 2 "session_ttl_secs" z.sessionTtlSecs (asNat max64)
    retryBackoffSecs := ← d.fieldOr 3 "retry_backoff_secs" z.retryBackoffSecs (asNat max64)
    workTimeoutSecs := ← d.fieldOr 4 "work_timeout_secs" z.workTimeoutSecs (asNat max64)
    runIntervalSecs := ← d.fieldOr 5 "run_interval_secs" z.runIntervalSecs (asNat max64)
    watchServices := ← d.fieldOr 6 "watch_services" z.watchServices asTexts }

def toDocument (s : LockSettings) : Document :=
  .table [
    ("enabled", .bool s.enabled),
    ("key", .text s.key),
    ("session_ttl_secs", .nat s.sessionTtlSecs),
    ("retry_backoff_secs", .nat s.retryBackoffSecs),
    ("work_timeout_secs", .nat s.workTimeoutSecs),
    ("run_interval_secs", .nat s.runIntervalSecs),
    ("watch_services", .texts s.watchServices)]

end LockSettings

namespace RetrySettings

def ofDocument (d : Document) : Option RetrySettings := do
  guard d.isSection
  let z : RetrySettings := {}
  return {
    maxAttempts := ← d.fieldOr 0 "max_attempts" z.maxAttempts (asNat max32)
    intervalMs := ← d.fieldOr 1 "interval_ms" z.intervalMs (asNat max64) }

def toDocument (s : RetrySettings) : Document :=
  .table [("max_attempts", .nat s.maxAttempts), ("interval_ms", .nat s.intervalMs)]

end RetrySettings

namespace LoggingSettings

def ofDocument (d : Document) : Option LoggingSettings := do
  guard d.isSection
  let z : LoggingSettings := {}
  return {
    level := ← d.fieldOr 0 "level" z.level asText
    format := ← d.fieldOr 1 "format" z.format asText }

def toDocument (s : LoggingSettings) : Document :=
  .table [("level", .text s.level), ("format", .text s.format)]

end LoggingSettings

namespace Config

def ofDocument (d : Document) : Option Config := do
  guard d.isSection
  return {
    node := ← d.fieldOr 0 "node" {} NodeSettings.ofDocument
    discovery := ← d.fieldOr 1 "discovery" {} DiscoverySettings.ofDocument
    lock := ← d.fieldOr 2 "lock" {} LockSettings.ofDocument
    retry := ← d.fieldOr 3 "retry" {} RetrySettings.ofDocument
    logging := ← d.fieldOr 4 "logging" {} LoggingSettings.ofDocument }

def toDocument (c : Config) : Document :=
  .table [
    ("node", c.node.toDocument),
    ("discovery", c.discovery.toDocument),
    ("lock", c.lock.toDocument),
    ("retry", c.retry.toDocument),
    ("logging", c.logging.toDocument)]

end Config

end Rollcall
