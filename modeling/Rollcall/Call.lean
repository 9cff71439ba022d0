import Rollcall.Error
import Rollcall.Lock.Session
import Rollcall.Plan

/-!
# Calls

The operations of a registry of live instances and of a lock store, as data: who is asked for what.
Each call has its own type of value, and its outcome is that value or an error. A backend performs
calls at an instant and changes by doing so.
-/
namespace Rollcall

inductive Call where
  | register (id : InstanceId) (service address : String)
  | deregister (id : InstanceId) (service : String)
  | report (id : InstanceId) (service : String)
  | addresses (service : String)
  | createSession (ttl : Nat)
  | renewSession (session : SessionId)
  | destroySession (session : SessionId)
  | acquire (key : String) (session : SessionId)
  | release (key : String) (session : SessionId)
  deriving DecidableEq, Repr

namespace Call

abbrev Value : Call → Type
  | addresses _ => List String
  | createSession _ => SessionId
  | acquire .. => Bool
  | _ => Unit

abbrev Outcome (c : Call) : Type := Except Error c.Value

inductive Kind where
  | register
  | deregister
  | report
  | addresses
  | createSession
  | renewSession
  | destroySession
  | acquire
  | release
  deriving DecidableEq, Repr

def kind : Call → Kind
  | register .. => .register
  | deregister .. => .deregister
  | report .. => .report
  | addresses _ => .addresses
  | createSession _ => .createSession
  | renewSession _ => .renewSession
  | destroySession _ => .destroySession
  | acquire .. => .acquire
  | release .. => .release

end Call

abbrev Calls : Interface := ⟨Call, Call.Outcome⟩

/-- Something that performs calls. -/
class Backend (B : Type) where
  perform : B → (now : Nat) → (c : Call) → c.Outcome × B

namespace Backend

/-- Carry out a plan of calls at one instant. -/
def carryOut {B α : Type} [Backend B] (now : Nat) (p : Plan Calls α) (b : B) : α × B :=
  p.run (fun c b => perform b now c) (fun _ b => b) b

end Backend

end Rollcall
