/-!
# Plans

A plan is a computation that asks its surroundings for answers and lets time pass. An interface says
which questions there are and what an answer to each is; whoever carries a plan out chooses the
answers. The same plan thus runs against a store in memory, against a remote agent, or under a
clock that is moved by hand.
-/
namespace Rollcall

structure Interface where
  Op : Type
  Answer : Op → Type

inductive Plan (I : Interface) (α : Type) : Type where
  | done (value : α)
  | ask (op : I.Op) (next : I.Answer op → Plan I α)
  | wait (duration : Nat) (next : Unit → Plan I α)

namespace Plan

variable {I J : Interface} {α β : Type}

def bind : Plan I α → (α → Plan I β) → Plan I β
  | done a, f => f a
  | ask op next, f => ask op fun r => (next r).bind f
  | wait d next, f => wait d fun u => (next u).bind f

instance : Monad (Plan I) where
  pure := done
  bind := bind

def question (op : I.Op) : Plan I (I.Answer op) := ask op done

def pause (d : Nat) : Plan I Unit := wait d done

def map (f : α → β) (p : Plan I α) : Plan I β := p.bind fun a => done (f a)

/-- Answer every question of one interface by a plan over another. -/
def interpret (h : (op : I.Op) → Plan J (I.Answer op)) : Plan I α → Plan J α
  | done a => done a
  | ask op next => (h op).bind fun r => (next r).interpret h
  | wait d next => wait d fun u => (next u).interpret h

/-- How far a plan gets without time passing: to its end, or to a wait and what comes after it. -/
inductive Stop (I : Interface) (α : Type) where
  | over (value : α)
  | waiting (duration : Nat) (rest : Plan I α)

/-- Go through a plan up to its first wait that takes time. -/
def upToWait : Plan I α → Plan I (Stop I α)
  | done a => done (.over a)
  | ask op next => ask op fun r => (next r).upToWait
  | wait 0 next => (next ()).upToWait
  | wait (d + 1) next => done (.waiting (d + 1) (next ()))

/-- Carry a plan out, answering from a state and accounting for waits in it. -/
def run {σ : Type} (answer : (op : I.Op) → σ → I.Answer op × σ) (pass : Nat → σ → σ) :
    Plan I α → σ → α × σ
  | done a, s => (a, s)
  | ask op next, s => run answer pass (next (answer op s).1) (answer op s).2
  | wait d next, s => run answer pass (next ()) (pass d s)

@[simp] theorem bind_done (p : Plan I α) : p.bind done = p := by
  induction p with
  | done a => rfl
  | ask op next ih => simp [bind, ih]
  | wait d next ih => simp [bind, ih]

theorem bind_assoc {γ : Type} (p : Plan I α) (f : α → Plan I β) (g : β → Plan I γ) :
    (p.bind f).bind g = p.bind fun a => (f a).bind g := by
  induction p with
  | done a => rfl
  | ask op next ih => simp [bind, ih]
  | wait d next ih => simp [bind, ih]

theorem run_bind {σ : Type} (answer : (op : I.Op) → σ → I.Answer op × σ) (pass : Nat → σ → σ)
    (p : Plan I α) (f : α → Plan I β) (s : σ) :
    (p.bind f).run answer pass s =
      (f (p.run answer pass s).1).run answer pass (p.run answer pass s).2 := by
  induction p generalizing s with
  | done a => rfl
  | ask op next ih => simp [bind, run, ih]
  | wait d next ih => simp [bind, run, ih]

end Plan

end Rollcall
