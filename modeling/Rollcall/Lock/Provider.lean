import Rollcall.Call
import Rollcall.Text.Quoted
import Rollcall.Ticker

/-!
# Lock providers

A provider owns a session, takes locks with it, and renews it twice in its time to live. When the
store has forgotten the session, the provider replaces it by a new one. A lock once taken is
released with the session that took it, whatever session the provider has by then.
-/
namespace Rollcall

/-- Proof of having taken a lock. -/
structure LockGuard where
  key : String
  session : SessionId
  deriving DecidableEq, Repr

namespace LockGuard

def describe (g : LockGuard) : String :=
  "LockGuard \x7b key: " ++ Text.Quoted.encode g.key ++ ", session: SessionId(" ++
    Text.Quoted.encode g.session.text ++ ") \x7d"

def release (g : LockGuard) : Plan Calls (Except Error Unit) :=
  .ask (.release g.key g.session) .done

end LockGuard

structure LockProvider where
  session : SessionId
  ttl : Nat
  ticker : Ticker
  deriving DecidableEq, Repr

namespace LockProvider

def defaultTtl : Nat := Duration.ofSecs 10

def shortestPeriod : Nat := Duration.ofMillis 100

def renewalPeriod (ttl : Nat) : Nat := max (ttl / 2) shortestPeriod

/-- A provider for a session created at `now`, to be renewed one period later. The period counts from
the opening: whoever is ready to go on has its turn before the clock goes on or leaps, and so the
renewal begins at the instant at which the provider is opened. -/
def holding (now : Nat) (ttl : Nat) (session : SessionId) : LockProvider :=
  { session, ttl, ticker := ⟨renewalPeriod ttl, now + renewalPeriod ttl⟩ }

def start (now ttl : Nat) : Plan Calls (Except Error LockProvider) :=
  .ask (.createSession ttl) fun (r : Except Error SessionId) => .done (r.map (holding now ttl))

/-- Try to take a lock; there is no guard if another session holds the key. -/
def acquire (key : String) (session : SessionId) : Plan Calls (Except Error (Option LockGuard)) :=
  .ask (.acquire key session) fun (r : Except Error Bool) =>
    .done (r.map fun won => if won then some ⟨key, session⟩ else none)

/-- The session after an attempt to renew it: itself, or a new one if the store had forgotten it
and could create another. -/
def renewSession (session : SessionId) (ttl : Nat) : Plan Calls SessionId :=
  .ask (.renewSession session) fun (r : Except Error Unit) =>
    match r with
    | .ok () => .done session
    | .error e =>
      if e.kind = .notFound then
        .ask (.createSession ttl) fun (r : Except Error SessionId) =>
          .done (match r with | .ok fresh => fresh | .error _ => session)
      else .done session

/-- One tick of the renewal. -/
def tick (p : LockProvider) (now : Nat) : Plan Calls LockProvider :=
  (renewSession p.session p.ttl).bind fun session =>
    .done { p with session, ticker := p.ticker.advance now }

def close (p : LockProvider) : Plan Calls (Except Error Unit) :=
  .ask (.destroySession p.session) .done

end LockProvider

end Rollcall
