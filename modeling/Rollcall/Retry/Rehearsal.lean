import Rollcall.Retry

/-!
# Rehearsing a policy

A policy is rehearsed against attempts whose durations and outcomes are known beforehand. The
rehearsal tells when each attempt started, when the last one ended, and what came of it.
-/
namespace Rollcall

structure Trial (α : Type) where
  duration : Nat
  outcome : Except Error α

structure Rehearsal (α : Type) where
  started : List Nat
  elapsed : Nat
  result : Except Error α

namespace RetryPolicy

variable {α : Type}

/-- The interface of attempts: the question is the number of the attempt that starts. -/
abbrev Attempts : Interface := ⟨Nat, fun _ => Unit⟩

def attempt (trial : Nat → Trial α) (index : Nat) : Plan Attempts (Except Error α) :=
  .ask index fun _ => .wait (trial index).duration fun _ => .done (trial index).outcome

def rehearse (p : RetryPolicy) (trial : Nat → Trial α) : Rehearsal α :=
  let (result, (now, started)) :=
    (p.run (attempt trial)).run (fun _ s => ((), (s.1, s.1 :: s.2))) (fun d s => (s.1 + d, s.2))
      ((0, []) : Nat × List Nat)
  { started := started.reverse, elapsed := now, result }

end RetryPolicy

end Rollcall
