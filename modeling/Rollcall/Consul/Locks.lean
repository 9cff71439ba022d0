import Rollcall.Consul.Registry
import Rollcall.Lock.Session

/-!
# The locks of a Consul agent

Sessions are created so that the agent frees the keys of a session that is gone. The agent accepts
only times to live within limits, so one outside of them is brought to the nearer limit.
-/
namespace Rollcall.Consul

open Http

def clampTtl (ttl : Nat) : Nat := max shortestSession (min ttl longestSession)

/-- What is written into a key while it is held. -/
def lockValue : List UInt8 := "locked".toUTF8.toList

def sessionRequest (name : String) (ttl : Nat) : Document :=
  .table [
    ("Name", .text name),
    ("TTL", .text (toString (Duration.secs (clampTtl ttl)) ++ "s")),
    ("Behavior", .text "release")]

def sessionOfDocument : Document → Option SessionId
  | .table fields =>
    match uniqueField fields "ID" with
    | some (some (.text s)) => some ⟨s⟩
    | _ => none
  | .list [.text s] => some ⟨s⟩
  | _ => none

def boolOfDocument : Document → Option Bool
  | .bool b => some b
  | _ => none

/-- Read what a reply should hold. -/
def readAs {α : Type} (f : Document → Option α) (r : Except Error Document) : Except Error α :=
  match r with
  | .error e => .error e
  | .ok d =>
    match f d with
    | some a => .ok a
    | none => .error .malformedJson

def createSession (c : Client) (name : String) (ttl : Nat) :
    Plan Exchange (Except Error SessionId) :=
  (c.putJson "v1/session/create" [] (some (sessionRequest name ttl))).bind fun r =>
    .done (readAs sessionOfDocument r)

def renewSession (c : Client) (session : SessionId) : Plan Exchange (Except Error Unit) :=
  c.put s!"v1/session/renew/{session}" none

def destroySession (c : Client) (session : SessionId) : Plan Exchange (Except Error Unit) :=
  (c.putJson s!"v1/session/destroy/{session}" [] none).bind fun r =>
    .done ((readAs boolOfDocument r).map fun _ => ())

def keyPath (key : String) : String := "v1/kv/" ++ Text.dropLeading '/' key

def acquire (c : Client) (key : String) (session : SessionId) :
    Plan Exchange (Except Error Bool) :=
  (c.putRaw (keyPath key) [("acquire", session.text)] lockValue).bind fun r =>
    .done (readAs boolOfDocument r)

/-- Release a key; that it was not held is no failure. -/
def release (c : Client) (key : String) (session : SessionId) :
    Plan Exchange (Except Error Unit) :=
  (c.putRaw (keyPath key) [("release", session.text)] lockValue).bind fun r =>
    .done ((readAs boolOfDocument r).map fun _ => ())

end Rollcall.Consul
