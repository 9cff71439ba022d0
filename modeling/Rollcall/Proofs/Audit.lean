import Rollcall.Audit
import Rollcall.Proofs.Plan

/-!
# The audit only reads

All that an audit asks for are addresses and lots, however often it has to ask.
-/

namespace Rollcall

/-- The step changes neither the registry nor the lock store. -/
def Work.Step.IsRead : Work.Step → Prop
  | .call (.addresses _) => True
  | .call _ => False
  | _ => True

/-- The work only reads. -/
def Work.OnlyReads {α : Type} (p : Plan Work α) : Prop := p.Meets Step.IsRead fun _ => True

open Work (OnlyReads)

/-- Trying again asks nothing that a single attempt does not ask. -/
theorem RetryPolicy.meets_runFrom {I : Interface} {α : Type} {P : I.Op → Prop} {interval : Nat}
    {attempt : Nat → Plan I (Except Error α)}
    (h : ∀ index, (attempt index).Meets P fun _ => True) (more index : Nat) :
    (runFrom interval attempt more index).Meets P fun _ => True := by
  induction more generalizing index with
  | zero => exact h index
  | succ more ih =>
    refine (h index).bind fun outcome _ => ?_
    rcases outcome with e | a
    · simp only
      split_ifs
      · exact ih (index + 1)
      · trivial
    · trivial

namespace Audit

theorem count_onlyReads (policy : RetryPolicy) (service : String) :
    OnlyReads (count policy service) := by
  refine (RetryPolicy.meets_runFrom (fun _ => ?_) _ _).bind fun _ _ => trivial
  exact ⟨trivial, fun _ => trivial⟩

theorem sample_onlyReads (service : String) : OnlyReads (sample service) := by
  refine ⟨trivial, fun r => ?_⟩
  rcases r with e | live
  · trivial
  · cases live with
    | nil => trivial
    | cons first rest => exact ⟨trivial, fun _ => trivial⟩

theorem auditOne_onlyReads (policy : RetryPolicy) (service : String) :
    OnlyReads (auditOne policy service) := by
  refine (count_onlyReads policy service).bind fun r _ => ?_
  rcases r with e | n
  · trivial
  · cases n with
    | zero => trivial
    | succ n => exact (sample_onlyReads service).bind fun _ _ => trivial

theorem audit_onlyReads (policy : RetryPolicy) (services : List String) :
    OnlyReads (audit policy services) := by
  induction services with
  | nil => trivial
  | cons service services ih =>
    refine (auditOne_onlyReads policy service).bind fun r _ => ?_
    rcases r with e | one
    · trivial
    · exact ih.bind fun _ _ => trivial

theorem job_onlyReads (policy : RetryPolicy) (services : List String) :
    OnlyReads (job policy services).plan :=
  (audit_onlyReads policy services).bind fun _ _ => trivial

end Audit

end Rollcall
