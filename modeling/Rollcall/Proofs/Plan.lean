import Rollcall.Plan
import Mathlib.Tactic

/-!
# What a plan may ask and how it may end

A plan meets a specification if every question it may come to ask, whatever the answers before, is
an allowed one, and every value with which it may end is a wanted one. Whoever carries out such a
plan, and keeps an invariant in answering the allowed questions, has kept it at the end.
-/

namespace Rollcall.Plan

variable {I J : Interface} {α β σ : Type}

/-- The plan asks only questions that satisfy `P`, and ends only with values that satisfy `Q`. -/
def Meets (P : I.Op → Prop) (Q : α → Prop) : Plan I α → Prop
  | done a => Q a
  | ask op next => P op ∧ ∀ r, (next r).Meets P Q
  | wait _ next => (next ()).Meets P Q

def Stop.Meets (P : I.Op → Prop) (Q : α → Prop) : Stop I α → Prop
  | .over a => Q a
  | .waiting _ rest => rest.Meets P Q

variable {P : I.Op → Prop} {Q : α → Prop}

theorem Meets.mono {p : Plan I α} (hp : p.Meets P Q) {P' : I.Op → Prop} {Q' : α → Prop}
    (hP : ∀ op, P op → P' op) (hQ : ∀ a, Q a → Q' a) : p.Meets P' Q' := by
  induction p with
  | done a => exact hQ a hp
  | ask op next ih => exact ⟨hP op hp.1, fun r => ih r (hp.2 r)⟩
  | wait d next ih => exact ih () hp

theorem Meets.bind {p : Plan I α} (hp : p.Meets P Q) {f : α → Plan I β} {Q' : β → Prop}
    (hf : ∀ a, Q a → (f a).Meets P Q') : (p.bind f).Meets P Q' := by
  induction p with
  | done a => exact hf a hp
  | ask op next ih => exact ⟨hp.1, fun r => ih r (hp.2 r)⟩
  | wait d next ih => exact ih () hp

theorem Meets.upToWait {p : Plan I α} (hp : p.Meets P Q) :
    p.upToWait.Meets P (Stop.Meets P Q) := by
  induction p with
  | done a => exact hp
  | ask op next ih => exact ⟨hp.1, fun r => ih r (hp.2 r)⟩
  | wait d next ih =>
    cases d with
    | zero => exact ih () hp
    | succ d => exact hp

theorem Meets.interpret {p : Plan I α} (hp : p.Meets P Q) {P' : J.Op → Prop}
    {h : (op : I.Op) → Plan J (I.Answer op)}
    (hh : ∀ op, P op → (h op).Meets P' fun _ => True) : (p.interpret h).Meets P' Q := by
  induction p with
  | done a => exact hp
  | ask op next ih => exact (hh op hp.1).bind fun r _ => ih r (hp.2 r)
  | wait d next ih => exact ih () hp

/-- Carrying out a plan keeps what answering its questions keeps. -/
theorem Meets.run {p : Plan I α} (hp : p.Meets P Q) (Inv : σ → Prop)
    {answer : (op : I.Op) → σ → I.Answer op × σ} {pass : Nat → σ → σ}
    (hanswer : ∀ op s, P op → Inv s → Inv (answer op s).2)
    (hpass : ∀ d s, Inv s → Inv (pass d s)) {s : σ} (hs : Inv s) :
    Q (p.run answer pass s).1 ∧ Inv (p.run answer pass s).2 := by
  induction p generalizing s with
  | done a => exact ⟨hp, hs⟩
  | ask op next ih => exact ih _ (hp.2 _) (hanswer op s hp.1 hs)
  | wait d next ih => exact ih () hp (hpass d s hs)

end Rollcall.Plan
