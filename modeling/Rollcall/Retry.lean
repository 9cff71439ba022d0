import Rollcall.Error
import Rollcall.Plan
import Rollcall.Time

/-!
# Retrying

A policy bounds the attempts at an operation and fixes the pause between two of them. Only a
failure of a retryable kind is tried again; the outcome of the last attempt made is the outcome of
the whole.
-/
namespace Rollcall

structure RetryPolicy where
  maxAttempts : Nat
  interval : Nat
  deriving DecidableEq, Repr

namespace RetryPolicy

def defaultMaxAttempts : Nat := 5
def defaultInterval : Nat := Duration.ofSecs 1

def make (maxAttempts interval : Nat) : RetryPolicy := ⟨max 1 maxAttempts, interval⟩

def standard : RetryPolicy := ⟨defaultMaxAttempts, defaultInterval⟩

def single : RetryPolicy := ⟨1, 0⟩

/-- The attempts that a policy allows; none is as good as one. -/
def attempts (p : RetryPolicy) : Nat := max 1 p.maxAttempts

variable {I : Interface} {α : Type}

/-- Make attempt number `index`, with `more` further attempts allowed after it. -/
def runFrom (interval : Nat) (attempt : Nat → Plan I (Except Error α)) :
    (more index : Nat) → Plan I (Except Error α)
  | 0, index => attempt index
  | more + 1, index =>
    (attempt index).bind fun outcome =>
      match outcome with
      | .ok a => .done (.ok a)
      | .error e =>
        if e.isRetryable then
          .wait interval fun _ => runFrom interval attempt more (index + 1)
        else .done (.error e)

/-- Attempt an operation until it succeeds, fails for good, or the attempts are used up. -/
def run (p : RetryPolicy) (attempt : Nat → Plan I (Except Error α)) : Plan I (Except Error α) :=
  runFrom p.interval attempt (p.attempts - 1) 0

end RetryPolicy

end Rollcall
