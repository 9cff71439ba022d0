import Rollcall.Lock.Provider
import Rollcall.Random.Source
import Rollcall.Signal
import Rollcall.Work

/-!
# Processors

A processor runs a job in passes, each under a lock that it takes first and releases after. A job
that is not over by its deadline is cut off. Between two passes the processor pauses: for the run
interval after a pass that got the lock, for the backoff after one that did not. It stops before a
pass when its flag is set, and a pause ends at once when the flag is set, with a stop, when the flag
is cleared, with another pass, or when the owner goes away, with a stop.
-/
namespace Rollcall

namespace Processor

structure Settings where
  lockKey : String
  retryBackoff : Nat
  workTimeout : Nat
  runInterval : Nat
  deriving DecidableEq, Repr

namespace Settings

def standard : Settings where
  lockKey := "locks/service/movie/processor"
  retryBackoff := Duration.ofSecs 10
  workTimeout := Duration.ofSecs 300
  runInterval := Duration.ofSecs 10

end Settings

inductive Outcome where
  | completed
  | failed
  | timedOut
  | contended
  | lockError
  deriving DecidableEq, Repr

namespace Outcome

def name : Outcome → String
  | completed => "Completed"
  | failed => "Failed"
  | timedOut => "TimedOut"
  | contended => "Contended"
  | lockError => "LockError"

/-- How the pass of a job that ended by itself came out. -/
def ofResult : Except Error Unit → Outcome
  | .ok () => completed
  | .error _ => failed

def pause (settings : Settings) : Outcome → Nat
  | completed | failed | timedOut => settings.runInterval
  | contended | lockError => settings.retryBackoff

end Outcome

inductive Phase where
  | ready
  /-- In the middle of a job, which goes on at `resume` unless `deadline` comes first. -/
  | working (guard : LockGuard) (rest : Plan Work (Except Error Unit)) (resume deadline : Nat)
  | pausing (outcome : Outcome) («until» : Nat)
  | finished

/-- Make the calls of a pass that come after the job: release the lock, and pause. -/
def endPass (settings : Settings) (guard : LockGuard) (outcome : Outcome) (now : Nat) :
    Plan Work Phase :=
  (Work.ofCalls guard.release).bind fun _ =>
    .done (.pausing outcome (now + outcome.pause settings))

/-- Settle what a job is up to after running it up to a wait or its end. -/
def afterBurst (settings : Settings) (guard : LockGuard) (deadline now : Nat) :
    Plan.Stop Work (Except Error Unit) → Plan Work Phase
  | .over result => endPass settings guard (.ofResult result) now
  | .waiting d rest =>
    if deadline ≤ now then endPass settings guard .timedOut now
    else .done (.working guard rest (now + d) deadline)

/-- Run a job up to its next wait. -/
def burst (settings : Settings) (guard : LockGuard) (deadline now : Nat)
    (rest : Plan Work (Except Error Unit)) : Plan Work Phase :=
  rest.upToWait.bind (afterBurst settings guard deadline now)

/-- Begin a pass: take the lock and start the job. -/
def begin (settings : Settings) (job : Job) (session : SessionId) (now : Nat) : Plan Work Phase :=
  (Work.ofCalls (LockProvider.acquire settings.lockKey session)).bind
    fun (r : Except Error (Option LockGuard)) =>
      match r with
      | .ok (some guard) => burst settings guard (now + settings.workTimeout) now job.plan
      | .ok none => .done (.pausing .contended (now + settings.retryBackoff))
      | .error _ => .done (.pausing .lockError (now + settings.retryBackoff))

end Processor

structure Processor where
  settings : Processor.Settings
  job : Job
  random : RandomSource
  signal : Signal
  phase : Processor.Phase := .ready

namespace Processor

def isFinished (p : Processor) : Bool :=
  match p.phase with
  | .finished => true
  | _ => false

/-- When the processor next has something to do. -/
def due (p : Processor) : Option Nat :=
  match p.phase with
  | .finished => none
  | .ready => some 0
  | .working _ _ resume deadline => some (min resume deadline)
  | .pausing _ t => if p.signal.stirs then some 0 else some t

def withPhase (p : Processor) (phase : Phase) : Processor := { p with phase }

/-- What a processor does when woken at `now`, its lock provider having the given session. What comes
first is open when a pause is over just as there is something to notice; here it is the end of the
pause, so that the flag is looked at before the next pass. -/
def wake (p : Processor) (session : SessionId) (now : Nat) : Plan Work Processor :=
  match p.phase with
  | .finished => .done p
  | .ready =>
    if p.signal.value then .done (p.withPhase .finished)
    else (begin p.settings p.job session now).map p.withPhase
  | .working guard rest resume deadline =>
    if resume ≤ now then (burst p.settings guard deadline now rest).map p.withPhase
    else if deadline ≤ now then (endPass p.settings guard .timedOut now).map p.withPhase
    else .done p
  | .pausing _ t =>
    if t ≤ now then .done (p.withPhase .ready)
    else if p.signal.isNews then
      .done { p with signal := p.signal.look,
                     phase := if p.signal.value then .finished else .ready }
    else if p.signal.isDropped then .done (p.withPhase .finished)
    else .done p

end Processor

end Rollcall
