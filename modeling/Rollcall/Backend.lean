import Rollcall.Cluster
import Rollcall.Consul.Agent

/-!
# The backend that a configuration names

A configuration chooses between a cluster in memory and a Consul agent behind a network. Building
either of them makes no call.
-/
namespace Rollcall

inductive ConfiguredBackend (N : Type) where
  | memory (c : Cluster)
  | consul (a : Consul.Agent N)

namespace ConfiguredBackend

variable {N : Type}

def ofConfig (c : Config) (network : N) : Except Error (ConfiguredBackend N) :=
  match c.discovery.backend with
  | .memory => .ok (.memory { registry := c.memoryRegistry })
  | .consul =>
    (Consul.AgentSettings.ofConfig c).map fun settings => .consul { settings, network }

instance [Http.Network N] : Backend (ConfiguredBackend N) where
  perform b now c :=
    match b with
    | .memory m => let (r, m) := Backend.perform m now c; (r, .memory m)
    | .consul a => let (r, a) := Backend.perform a now c; (r, .consul a)

def inspect {α : Type} (b : ConfiguredBackend N) (f : Cluster → α × Cluster) (default : α) :
    α × ConfiguredBackend N :=
  match b with
  | .memory m => let (r, m) := f m; (r, .memory m)
  | .consul a => (default, .consul a)

end ConfiguredBackend

end Rollcall
