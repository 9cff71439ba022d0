import Rollcall.Call
import Rollcall.Config.Basic
import Rollcall.Consul.Locks

/-!
# The backend of a Consul agent

Every call is a plan of requests to the agent, and any network carries those plans out.
-/
namespace Rollcall.Consul

open Http

structure AgentSettings where
  client : Client
  registry : RegistrySettings := {}
  /-- The name that sessions are created under. -/
  sessionName : String
  deriving DecidableEq, Repr

namespace AgentSettings

def ofConfig (c : Config) : Except Error AgentSettings :=
  match Client.ofAddress c.discovery.consulAddress with
  | .error e => .error e
  | .ok client => .ok {
      client
      registry := ⟨c.checkTtl, c.deregisterCriticalAfter⟩
      sessionName := c.node.serviceName ++ "-processor" }

/-- The requests of a call. -/
def plan (s : AgentSettings) : (c : Call) → Plan Exchange c.Outcome
  | .register id service address => Consul.register s.client s.registry id service address
  | .deregister id _ => Consul.deregister s.client id
  | .report id service => Consul.report s.client id service
  | .addresses service => Consul.addresses s.client service
  | .createSession ttl => Consul.createSession s.client s.sessionName ttl
  | .renewSession session => Consul.renewSession s.client session
  | .destroySession session => Consul.destroySession s.client session
  | .acquire key session => Consul.acquire s.client key session
  | .release key session => Consul.release s.client key session

end AgentSettings

/-- An agent behind a network. -/
structure Agent (N : Type) where
  settings : AgentSettings
  network : N

namespace Agent

variable {N : Type} [Network N]

def carryOut {α : Type} (n : N) (p : Plan Exchange α) : α × N :=
  p.run (fun r n => Network.send n r) (fun _ n => n) n

instance : Backend (Agent N) where
  perform a _ c :=
    let (r, network) := carryOut a.network (a.settings.plan c)
    (r, { a with network })

end Agent

end Rollcall.Consul
