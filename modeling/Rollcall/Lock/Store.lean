import Rollcall.Data.Table
import Rollcall.Error
import Rollcall.Lock.Session

/-!
# The lock store

A store keeps sessions, each with a time to live and the instant after which it has lapsed, and for
each bound key the session that holds it. Lapsed sessions are removed lazily: most operations first
reap the sessions whose expiry has passed, together with the keys they hold.
-/
namespace Rollcall

structure Session where
  ttl : Nat
  expires : Nat
  deriving DecidableEq, Repr

structure LockStore where
  sessions : Table SessionId Session := .empty
  holders : Table String SessionId := .empty

namespace LockStore

def empty : LockStore := {}

/-- Remove a session and every key it holds. -/
def drop (s : LockStore) (id : SessionId) : LockStore :=
  { sessions := s.sessions.erase id, holders := s.holders.filter fun _ h => h ≠ id }

/-- The sessions that have lapsed: their expiry lies strictly in the past. -/
def lapsed (s : LockStore) (now : Nat) : List SessionId :=
  (s.sessions.filter fun _ v => v.expires < now).entries.map (·.1)

def reap (s : LockStore) (now : Nat) : LockStore := (s.lapsed now).foldl drop s

/-- A new session under an id that is not in use. -/
def create (s : LockStore) (now : Nat) (id : SessionId) (ttl : Nat) : LockStore :=
  { s with sessions := s.sessions.put id ⟨ttl, now + ttl⟩ }

/-- Give a session its full time to live again. -/
def renew (s : LockStore) (now : Nat) (id : SessionId) : Except Error Unit × LockStore :=
  let s := s.reap now
  match s.sessions.get? id with
  | none => (.error (.notFound s!"session {id}"), s)
  | some v =>
    (.ok (), { s with sessions := s.sessions.put id { v with expires := now + v.ttl } })

/-- Bind a key, unless another session holds it. -/
def acquire (s : LockStore) (now : Nat) (key : String) (id : SessionId) :
    Except Error Bool × LockStore :=
  let s := s.reap now
  if s.sessions.contains id then
    match s.holders.get? key with
    | some h => if h = id then (.ok true, s) else (.ok false, s)
    | none => (.ok true, { s with holders := s.holders.put key id })
  else (.error (.internal s!"invalid session {id}"), s)

/-- Unbind a key, if this very session holds it. -/
def release (s : LockStore) (now : Nat) (key : String) (id : SessionId) : LockStore :=
  let s := s.reap now
  if s.holders.get? key = some id then { s with holders := s.holders.erase key } else s

def holder (s : LockStore) (now : Nat) (key : String) : Option SessionId × LockStore :=
  let s := s.reap now
  (s.holders.get? key, s)

def sessionCount (s : LockStore) (now : Nat) : Nat × LockStore :=
  let s := s.reap now
  (s.sessions.size, s)

end LockStore

end Rollcall
