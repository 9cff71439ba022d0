import Rollcall.Proofs.Plan

/-!
# How far plans get

A plan, carried out from some instant on, asks questions and lets time pass; how far it gets depends
on the answers. What it has asked by then is a list of exchanges, each with its instant. The plan
itself does not say when a wait is over: whoever carries it out does.
-/

namespace Rollcall

namespace Plan

structure Exchange (I : Interface) where
  time : ℕ
  op : I.Op
  answer : I.Answer op

variable {I : Interface} {α β : Type} {wait wait' : ℕ → ℕ → ℕ} {p q p' : Plan I α} {t u v : ℕ}
  {l l' : List (Exchange I)}

/-- The plan, carried out from `t` on, has made the exchanges by `u`, and `q` is what is left of it.
A wait that begins at `t` and takes `d` is over at `wait t d`. -/
inductive Proceeds (wait : ℕ → ℕ → ℕ) :
    Plan I α → ℕ → List (Exchange I) → Plan I α → ℕ → Prop
  | stay (p : Plan I α) (t : ℕ) : Proceeds wait p t [] p t
  | ask {op next t l q u} (r : I.Answer op) (h : Proceeds wait (next r) t l q u) :
      Proceeds wait (.ask op next) t (⟨t, op, r⟩ :: l) q u
  | wait {d next t l q u} (h : Proceeds wait (next ()) (wait t d) l q u) :
      Proceeds wait (.wait d next) t l q u

/-- At one instant: no wait takes time. -/
abbrev atOnce (t _ : ℕ) : ℕ := t

theorem Proceeds.trans (h : p.Proceeds wait t l q u) (h' : q.Proceeds wait u l' p' v) :
    p.Proceeds wait t (l ++ l') p' v := by
  induction h with
  | stay => exact h'
  | ask r _ ih => exact .ask r (ih h')
  | wait _ ih => exact .wait (ih h')

theorem Proceeds.time_eq (h : p.Proceeds atOnce t l q u) : u = t := by
  induction h with
  | stay => rfl
  | ask _ _ ih => exact ih
  | wait _ ih => exact ih

@[simp] theorem proceeds_done_iff {a : α} :
    (Plan.done a).Proceeds wait t l q u ↔ l = [] ∧ q = .done a ∧ u = t := by
  constructor
  · intro h
    cases h
    exact ⟨rfl, rfl, rfl⟩
  · rintro ⟨rfl, rfl, rfl⟩
    exact .stay _ _

theorem proceeds_ask_iff {op : I.Op} {next : I.Answer op → Plan I α} {a : α} :
    (Plan.ask op next).Proceeds wait t l (.done a) u ↔
      ∃ r l', l = ⟨t, op, r⟩ :: l' ∧ (next r).Proceeds wait t l' (.done a) u := by
  constructor
  · intro h
    cases h with
    | ask r h => exact ⟨r, _, rfl, h⟩
  · rintro ⟨r, l', rfl, h⟩
    exact .ask r h

/-- One plan after the other. -/
theorem proceeds_bind_iff {f : α → Plan I β} {b : β} :
    (p.bind f).Proceeds wait t l (.done b) u ↔ ∃ l₁ a v l₂, l = l₁ ++ l₂ ∧
      p.Proceeds wait t l₁ (.done a) v ∧ (f a).Proceeds wait v l₂ (.done b) u := by
  constructor
  · intro h
    induction p generalizing t l with
    | done a => exact ⟨[], a, t, l, rfl, .stay _ _, h⟩
    | ask op next ih =>
      obtain ⟨r, l', rfl, hnext⟩ := proceeds_ask_iff.mp h
      obtain ⟨l₁, a, v, l₂, rfl, h₁, h₂⟩ := ih r hnext
      exact ⟨_, a, v, l₂, rfl, .ask r h₁, h₂⟩
    | wait d next ih =>
      cases h with
      | wait h =>
        obtain ⟨l₁, a, v, l₂, rfl, h₁, h₂⟩ := ih () h
        exact ⟨l₁, a, v, l₂, rfl, .wait h₁, h₂⟩
  · rintro ⟨l₁, a, v, l₂, rfl, h₁, h₂⟩
    generalize hq : Plan.done a = q at h₁
    induction h₁ with
    | stay =>
      subst hq
      exact h₂
    | ask r _ ih => exact .ask r (ih h₂ hq)
    | wait _ ih => exact .wait (ih h₂ hq)

theorem Meets.of_proceeds {P : I.Op → Prop} {Q : α → Prop} {a : α} (hp : p.Meets P Q)
    (h : p.Proceeds wait t l (.done a) u) : Q a := by
  generalize hq : Plan.done a = q at h
  induction h with
  | stay =>
    subst hq
    exact hp
  | ask r _ ih => exact ih (hp.2 r) hq
  | wait _ ih => exact ih hp hq

/-- Up to a wait that takes time, a plan gets in no time. -/
theorem Proceeds.of_upToWait {stop : Stop I α} (hwait : wait t 0 = t)
    (h : p.upToWait.Proceeds atOnce t l (.done stop) u) :
    (∃ a, stop = .over a ∧ p.Proceeds wait t l (.done a) t) ∨
      ∃ d next, stop = .waiting d (next ()) ∧ 0 < d ∧ p.Proceeds wait t l (.wait d next) t := by
  induction p generalizing l with
  | done a =>
    obtain ⟨rfl, hstop, rfl⟩ := proceeds_done_iff.mp h
    cases hstop
    exact .inl ⟨a, rfl, .stay _ _⟩
  | ask op next ih =>
    obtain ⟨r, l', rfl, hnext⟩ := proceeds_ask_iff.mp h
    rcases ih r hnext with ⟨a, rfl, hgo⟩ | ⟨d, next, rfl, hd, hgo⟩
    · exact .inl ⟨a, rfl, .ask r hgo⟩
    · exact .inr ⟨d, next, rfl, hd, .ask r hgo⟩
  | wait d next ih =>
    cases d with
    | zero =>
      have hskip : ∀ {q}, (next ()).Proceeds wait t l q t →
          (Plan.wait 0 next).Proceeds wait t l q t := fun hgo => .wait (by rwa [hwait])
      rcases ih () h with ⟨a, rfl, hgo⟩ | ⟨d, next, rfl, hd, hgo⟩
      · exact .inl ⟨a, rfl, hskip hgo⟩
      · exact .inr ⟨d, next, rfl, hd, hskip hgo⟩
    | succ d =>
      obtain ⟨rfl, hstop, rfl⟩ := proceeds_done_iff.mp h
      cases hstop
      exact .inr ⟨d + 1, next, rfl, d.succ_pos, .stay _ _⟩

end Plan

end Rollcall
