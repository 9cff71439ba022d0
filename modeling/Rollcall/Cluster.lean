import Rollcall.Call
import Rollcall.Lock.Store
import Rollcall.Registry

/-!
# The backend in memory

A registry and a lock store side by side. Sessions are numbered in the order of their creation, and
the number makes the id.
-/
namespace Rollcall

structure Cluster where
  registry : Registry
  locks : LockStore := .empty
  created : Nat := 0

namespace Cluster

def sessionId (n : Nat) : SessionId := ⟨s!"sess-{n}"⟩

def perform (b : Cluster) (now : Nat) : (c : Call) → c.Outcome × Cluster
  | .register id service address =>
    let (r, registry) := b.registry.register now id service address
    (r, { b with registry })
  | .deregister id service => (.ok (), { b with registry := b.registry.deregister id service })
  | .report id service =>
    let (r, registry) := b.registry.report now id service
    (r, { b with registry })
  | .addresses service => (b.registry.addresses now service, b)
  | .createSession ttl =>
    let id := sessionId (b.created + 1)
    (.ok id, { b with locks := b.locks.create now id ttl, created := b.created + 1 })
  | .renewSession session =>
    let (r, locks) := b.locks.renew now session
    (r, { b with locks })
  | .destroySession session => (.ok (), { b with locks := b.locks.drop session })
  | .acquire key session =>
    let (r, locks) := b.locks.acquire now key session
    (r, { b with locks })
  | .release key session => (.ok (), { b with locks := b.locks.release now key session })

instance : Backend Cluster := ⟨perform⟩

end Cluster

end Rollcall
