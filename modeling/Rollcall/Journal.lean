import Rollcall.Work

/-!
# Journals

A journal tells what background tasks did and when: the calls they made, with their outcomes, and
the marks their jobs left. The latest entry comes first.
-/
namespace Rollcall

inductive Happening where
  | called (c : Call) (outcome : c.Outcome)
  | marked (job : String) (stage : Stage)

structure Event where
  time : Nat
  happening : Happening

abbrev Journal : Type := List Event

end Rollcall
