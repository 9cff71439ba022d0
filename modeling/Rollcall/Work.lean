import Rollcall.Call

/-!
# Work

What a job does while it holds a lock: it makes calls, draws lots, leaves marks in the journal, and
lets time pass. Plans of calls alone are a part of it.
-/
namespace Rollcall

inductive Stage where
  | start
  | finish
  deriving DecidableEq, Repr

inductive Work.Step where
  | call (c : Call)
  /-- Choose one of `more + 1` things. -/
  | choose (more : Nat)
  | mark (job : String) (stage : Stage)

namespace Work

abbrev Answer : Step → Type
  | .call c => c.Outcome
  | .choose more => Fin (more + 1)
  | .mark .. => Unit

end Work

abbrev Work : Interface := ⟨Work.Step, Work.Answer⟩

namespace Work

def call (c : Call) : Plan Work c.Outcome := .ask (.call c) .done

def choose (more : Nat) : Plan Work (Fin (more + 1)) := .ask (.choose more) .done

def mark (job : String) (stage : Stage) : Plan Work Unit := .ask (.mark job stage) .done

def ofCalls {α : Type} (p : Plan Calls α) : Plan Work α := p.interpret call

end Work

structure Job where
  name : String
  plan : Plan Work (Except Error Unit)

namespace Job

/-- A job that takes `duration` and then ends as given, leaving a mark at both ends. -/
def timed (name : String) (duration : Nat) (outcome : Except Error Unit) : Job where
  name := name
  plan := .ask (.mark name .start) fun _ => .wait duration fun _ =>
    .ask (.mark name .finish) fun _ => .done outcome

end Job

end Rollcall
