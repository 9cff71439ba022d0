import Rollcall.Config.Basic
import Rollcall.Text.Blank
import Rollcall.Text.Lowercase

/-!
# Configuration from the environment

Each variable sets one field. A variable that is missing, is no valid text, or does not read as a
value of its field leaves the default; only the choice of a backend has to be one of those known.
-/
namespace Rollcall

/-- The variables of an environment with their values as bytes. -/
abbrev Environment : Type := List (String × ByteArray)

namespace Environment

def text? (env : Environment) (name : String) : Option String :=
  (env.lookup name).bind String.fromUTF8?

def nat? (env : Environment) (bound : Nat) (name : String) : Option Nat :=
  (env.text? name).bind fun s => (Text.Numeral.read bound s).toOption

def bool? (env : Environment) (name : String) : Option Bool :=
  (env.text? name).bind fun s =>
    if s = "true" then some true else if s = "false" then some false else none

end Environment

/-- The parts of a text between commas, trimmed and without the empty ones. -/
def commaSeparated (s : String) : List String :=
  ((s.toList.splitOn ',').map fun part => Text.trim (String.ofList part)).filter (· ≠ "")

namespace Config

def serviceNameVar : String := "MESHKEEPER_SERVICE_NAME"
def advertiseAddressVar : String := "MESHKEEPER_ADVERTISE_ADDRESS"
def heartbeatIntervalVar : String := "MESHKEEPER_HEARTBEAT_INTERVAL"
def backendVar : String := "MESHKEEPER_DISCOVERY_BACKEND"
def consulAddressVar : String := "CONSUL_HTTP_ADDR"
def checkTtlVar : String := "MESHKEEPER_CHECK_TTL"
def lockEnabledVar : String := "MESHKEEPER_LOCK_ENABLED"
def lockKeyVar : String := "MESHKEEPER_LOCK_KEY"
def sessionTtlVar : String := "MESHKEEPER_SESSION_TTL"
def runIntervalVar : String := "MESHKEEPER_RUN_INTERVAL"
def watchServicesVar : String := "MESHKEEPER_WATCH_SERVICES"
def maxAttemptsVar : String := "MESHKEEPER_RETRY_MAX_ATTEMPTS"
def retryIntervalVar : String := "MESHKEEPER_RETRY_INTERVAL_MS"
def logLevelVar : String := "MESHKEEPER_LOG_LEVEL"
def logFormatVar : String := "MESHKEEPER_LOG_FORMAT"

def variableNames : List String :=
  [serviceNameVar, advertiseAddressVar, heartbeatIntervalVar, backendVar, consulAddressVar,
    checkTtlVar, lockEnabledVar, lockKeyVar, sessionTtlVar, runIntervalVar, watchServicesVar,
    maxAttemptsVar, retryIntervalVar, logLevelVar, logFormatVar]

/-- The chosen backend, or the text that names none. -/
def backendOfEnvironment (env : Environment) : Except String BackendChoice :=
  match env.text? backendVar with
  | none => .ok standard.discovery.backend
  | some s =>
    let name := Text.lowercase s
    match BackendChoice.ofName? name with
    | some b => .ok b
    | none => .error name

/-- Everything but the backend. -/
def ofVariables (env : Environment) (backend : BackendChoice) : Config :=
  let d := standard
  { node :=
      { serviceName := (env.text? serviceNameVar).getD d.node.serviceName
        advertiseAddress := (env.text? advertiseAddressVar).getD d.node.advertiseAddress
        heartbeatIntervalSecs :=
          (env.nat? Text.max64 heartbeatIntervalVar).getD d.node.heartbeatIntervalSecs }
    discovery :=
      { d.discovery with
        backend
        consulAddress := (env.text? consulAddressVar).getD d.discovery.consulAddress
        checkTtlSecs := (env.nat? Text.max64 checkTtlVar).getD d.discovery.checkTtlSecs }
    lock :=
      { d.lock with
        enabled := (env.bool? lockEnabledVar).getD d.lock.enabled
        key := (env.text? lockKeyVar).getD d.lock.key
        sessionTtlSecs := (env.nat? Text.max64 sessionTtlVar).getD d.lock.sessionTtlSecs
        runIntervalSecs := (env.nat? Text.max64 runIntervalVar).getD d.lock.runIntervalSecs
        watchServices :=
          ((env.text? watchServicesVar).map commaSeparated).getD d.lock.watchServices }
    retry :=
      { maxAttempts := (env.nat? Text.max32 maxAttemptsVar).getD d.retry.maxAttempts
        intervalMs := (env.nat? Text.max64 retryIntervalVar).getD d.retry.intervalMs }
    logging :=
      { level := (env.text? logLevelVar).getD d.logging.level
        format := (env.text? logFormatVar).getD d.logging.format } }

/-- The configuration that an environment describes, or why it describes none. -/
def ofEnvironment (env : Environment) : Except String Config :=
  match backendOfEnvironment env with
  | .ok backend => .ok (ofVariables env backend)
  | .error name => .error s!"unknown discovery backend: {name}"

end Config

end Rollcall
