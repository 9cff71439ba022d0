import Rollcall.Config.Basic
import Rollcall.Text.Blank

/-!
# Valid configurations

The rules that settings have to obey, in the order in which they are checked.
-/
namespace Rollcall

inductive ConfigFault where
  | blankServiceName
  | invalidAddress (address : String) (cause : Error)
  | heartbeatOutOfRange
  | livenessTooShort
  | checkTtlTooShort
  | noRequestTimeout
  | sessionTtlOutOfRange
  | blankLockKey
  | noPause
  | noAttempts
  deriving DecidableEq, Repr

namespace ConfigFault

def message : ConfigFault → String
  | blankServiceName => "service_name must not be empty"
  | invalidAddress a _ => s!"invalid advertise_address '{a}'"
  | heartbeatOutOfRange =>
    s!"heartbeat_interval_secs must be between 1 and {Config.maxHeartbeatSecs}"
  | livenessTooShort => "liveness_multiplier must be at least 2"
  | checkTtlTooShort => "check_ttl_secs must be greater than heartbeat_interval_secs"
  | noRequestTimeout => "request_timeout_secs must be greater than 0"
  | sessionTtlOutOfRange =>
    "session_ttl_secs must be between " ++ toString (Duration.secs Consul.shortestSession) ++
      " and " ++ toString (Duration.secs Consul.longestSession)
  | blankLockKey => "lock key must not be empty"
  | noPause =>
    "lock retry_backoff_secs, work_timeout_secs and run_interval_secs must be greater than 0"
  | noAttempts => "retry max_attempts must be greater than 0"

def causes : ConfigFault → List String
  | invalidAddress _ e => e.message :: e.causes
  | _ => []

end ConfigFault

namespace Config

/-- The first rule that a configuration breaks. -/
def validate (c : Config) : Except ConfigFault Unit := do
  if Text.isBlankText c.node.serviceName then
    throw .blankServiceName
  if let .error e := HostPort.read c.node.advertiseAddress then
    throw (.invalidAddress c.node.advertiseAddress e)
  if c.node.heartbeatIntervalSecs = 0 ∨ c.node.heartbeatIntervalSecs > maxHeartbeatSecs then
    throw .heartbeatOutOfRange
  if c.discovery.livenessMultiplier < 2 then
    throw .livenessTooShort
  if c.discovery.checkTtlSecs ≤ c.node.heartbeatIntervalSecs then
    throw .checkTtlTooShort
  if c.discovery.requestTimeoutSecs = 0 then
    throw .noRequestTimeout
  if c.sessionTtl < Consul.shortestSession ∨ c.sessionTtl > Consul.longestSession then
    throw .sessionTtlOutOfRange
  if Text.isBlankText c.lock.key then
    throw .blankLockKey
  if c.lock.retryBackoffSecs = 0 ∨ c.lock.workTimeoutSecs = 0 ∨ c.lock.runIntervalSecs = 0 then
    throw .noPause
  if c.retry.maxAttempts = 0 then
    throw .noAttempts

end Config

end Rollcall
