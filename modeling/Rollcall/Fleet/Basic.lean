import Rollcall.Data.Table
import Rollcall.Heartbeat
import Rollcall.Journal
import Rollcall.Processor

/-!
# Fleets

A fleet is everything that runs against one backend under one clock: heartbeats, lock providers with
their renewal, and processors. Each member has a number. A member is woken when it is due; what it
then does takes no time, so a fleet changes only at the instants at which a member is due or a hand
from outside reaches in.

A lock provider lives as long as somebody holds a handle to it or an unfinished processor uses it;
after that it is no longer renewed and its session is left to lapse.
-/
namespace Rollcall

/-- A lock provider in a fleet. -/
structure Tenancy where
  provider : LockProvider
  /-- Somebody outside the fleet can still reach it. -/
  isHandled : Bool := true

/-- A processor in a fleet, with the number of the lock provider it uses. -/
structure Worker where
  processor : Processor
  lock : Nat

structure Fleet (B : Type) where
  backend : B
  now : Nat := 0
  journal : Journal := []
  heartbeats : Table Nat Heartbeat := .empty
  locks : Table Nat Tenancy := .empty
  workers : Table Nat Worker := .empty
  /-- How many members were ever added. -/
  admitted : Nat := 0

namespace Fleet

inductive Member where
  | heartbeat (n : Nat)
  | lock (n : Nat)
  | worker (n : Nat)
  deriving DecidableEq, Repr

variable {B : Type}

def record (f : Fleet B) (happening : Happening) : Fleet B :=
  { f with journal := ⟨f.now, happening⟩ :: f.journal }

/-- Make a call that leaves no trace in the journal. -/
def ask [Backend B] (f : Fleet B) (c : Call) : c.Outcome × Fleet B :=
  let (r, backend) := Backend.perform f.backend f.now c
  (r, { f with backend })

def perform [Backend B] (f : Fleet B) (c : Call) : c.Outcome × Fleet B :=
  let (r, f) := f.ask c
  (r, f.record (.called c r))

/-- Take one step of work. -/
def answer [Backend B] : (s : Work.Step) → Fleet B × RandomSource →
    Work.Answer s × (Fleet B × RandomSource)
  | .call c, (f, random) => let (r, f) := f.perform c; (r, (f, random))
  | .choose more, (f, random) => let (i, random) := random.choose more; (i, (f, random))
  | .mark job stage, (f, random) => ((), (f.record (.marked job stage), random))

/-- Carry out work, `pass` saying how time passes. -/
def carryOut [Backend B] {α : Type} (pass : Nat → Fleet B → Fleet B) (f : Fleet B)
    (random : RandomSource) (p : Plan Work α) : α × (Fleet B × RandomSource) :=
  p.run answer (fun d s => (pass d s.1, s.2)) (f, random)

/-- Carry out calls, at the present instant. -/
def callAll [Backend B] {α : Type} (f : Fleet B) (p : Plan Calls α) : α × Fleet B :=
  p.run (fun c f => f.perform c) (fun _ f => f) f

def isInUse (f : Fleet B) (lock : Nat) : Bool :=
  f.workers.values.any fun w => w.lock = lock && !w.processor.isFinished

/-- Let go of the lock providers that nobody can reach any more. -/
def sweep (f : Fleet B) : Fleet B :=
  { f with locks := f.locks.filter fun n t => t.isHandled || f.isInUse n }

/-- The members that have something to do, and when. -/
def duties (f : Fleet B) : List (Nat × Member) :=
  f.heartbeats.entries.filterMap (fun (n, h) => h.due.map fun t => (t, .heartbeat n)) ++
  f.locks.entries.map (fun (n, l) => (l.provider.ticker.due, .lock n)) ++
  f.workers.entries.filterMap fun (n, w) => w.processor.due.map fun t => (t, .worker n)

/-- The duty that comes first. -/
def earliest (f : Fleet B) : Option (Nat × Member) :=
  f.duties.foldl (fun best d =>
    match best with
    | none => some d
    | some b => if d.1 < b.1 then some d else some b) none

def wake [Backend B] (f : Fleet B) : Member → Fleet B
  | .heartbeat n =>
    match f.heartbeats.get? n with
    | none => f
    | some h =>
      let turn := h.wake f.now
      let f := if turn.report then (f.perform h.call).2 else f
      { f with heartbeats := f.heartbeats.put n turn.next }
  | .lock n =>
    match f.locks.get? n with
    | none => f
    | some l =>
      let (provider, f) := f.callAll (l.provider.tick f.now)
      { f with locks := f.locks.put n { l with provider } }
  | .worker n =>
    match f.workers.get? n with
    | none => f
    | some w =>
      match f.locks.get? w.lock with
      | none => f
      | some l =>
        let (processor, (f, random)) := f.carryOut (fun _ f => f) w.processor.random
          (w.processor.wake l.provider.session f.now)
        let processor := { processor with random }
        sweep { f with workers := f.workers.put n { w with processor } }

/-- Wake the members that are due, at most `fuel` times. -/
def settleWithin [Backend B] : (fuel : Nat) → Fleet B → Fleet B
  | 0, f => f
  | fuel + 1, f =>
    match f.earliest with
    | some (t, m) => if t ≤ f.now then settleWithin fuel (f.wake m) else f
    | none => f

/-- Wake members until none is due. One instant gives a member only a few turns. -/
def settle [Backend B] (f : Fleet B) : Fleet B :=
  settleWithin (16 * (f.heartbeats.size + f.locks.size + f.workers.size + 1)) f

/-- Leap to an instant, waking nobody on the way. -/
def jump [Backend B] (f : Fleet B) (target : Nat) : Fleet B :=
  settle { f with now := target }

/-- Let time pass from one duty to the next, as long as `go` says so. -/
def runWhile [Backend B] (go : Nat → Fleet B → Bool) : (fuel : Nat) → Fleet B → Fleet B
  | 0, f => f
  | fuel + 1, f =>
    match f.earliest with
    | some (t, _) =>
      let time := max f.now (Instant.ceilMilli t)
      if go time f then runWhile go fuel (settle { f with now := time }) else f
    | none => f

/-- Let time pass up to an instant, waking each member when it is due. Every round moves the clock
by a millisecond or more. -/
def advanceTo [Backend B] (f : Fleet B) (target : Nat) : Fleet B :=
  let f := runWhile (fun t _ => t ≤ target) (Duration.millis (target - f.now) + 1) f
  { f with now := max f.now target }

def advance [Backend B] (d : Nat) (f : Fleet B) : Fleet B := f.advanceTo (f.now + d)

/-- Carry out work while the fleet goes on. -/
def doWork [Backend B] {α : Type} (f : Fleet B) (random : RandomSource) (p : Plan Work α) :
    α × Fleet B :=
  let (r, (f, _)) := f.carryOut advance random p
  (r, f)

end Fleet

end Rollcall
