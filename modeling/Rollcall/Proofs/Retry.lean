import Mathlib.Tactic
import Rollcall.Retry

/-!
# The attempts of a policy

A policy makes one attempt after the other, with a pause between two, until an outcome is not worth
another attempt or the attempts are used up. What comes of the whole is what came of the last
attempt, in the state in which that one was made.
-/

namespace Rollcall.RetryPolicy

variable {I : Interface} {α σ : Type}

def isTransient : Except Error α → Bool
  | .ok _ => false
  | .error e => e.isRetryable

/-- Attempt number `k` is the last: all before it were worth another, and either it is not or there
is no other. -/
structure IsLast (p : RetryPolicy) (outcome : ℕ → Except Error α) (k : ℕ) : Prop where
  lt_attempts : k < p.attempts
  transient_before : ∀ j < k, isTransient (outcome j) = true
  is_over : isTransient (outcome k) = false ∨ k + 1 = p.attempts

variable {p : RetryPolicy} {outcome : ℕ → Except Error α} {k l : ℕ}

theorem IsLast.le (hk : p.IsLast outcome k) (hl : p.IsLast outcome l) : k ≤ l := by
  by_contra hlt
  rcases hl.is_over with hover | hover
  · rw [hk.transient_before l (not_le.mp hlt)] at hover
    cases hover
  · have := hk.lt_attempts
    omega

theorem IsLast.unique (hk : p.IsLast outcome k) (hl : p.IsLast outcome l) : k = l :=
  le_antisymm (hk.le hl) (hl.le hk)

theorem attempts_pos (p : RetryPolicy) : 0 < p.attempts := le_max_left 1 p.maxAttempts

section Run

variable (interval : ℕ) (attempt : ℕ → Plan I (Except Error α))
  (answer : (op : I.Op) → σ → I.Answer op × σ) (pass : ℕ → σ → σ) (s : σ)

/-- The state in which an attempt is made if all before it are worth another. -/
def stateAt : ℕ → σ
  | 0 => s
  | k + 1 => pass interval ((attempt k).run answer pass (stateAt k)).2

def attemptAt (k : ℕ) : Except Error α × σ :=
  (attempt k).run answer pass (stateAt interval attempt answer pass s k)

theorem run_runFrom_of_over (more : ℕ) {index : ℕ}
    (h : isTransient (attemptAt interval attempt answer pass s index).1 = false) :
    (runFrom interval attempt (more + 1) index).run answer pass
        (stateAt interval attempt answer pass s index) =
      attemptAt interval attempt answer pass s index := by
  rw [runFrom, Plan.run_bind]
  unfold attemptAt at h ⊢
  generalize (attempt index).run answer pass _ = made at h ⊢
  obtain ⟨e | a, s'⟩ := made
  · have he : ¬ e.isRetryable = true := Bool.eq_false_iff.mp h
    simp only [if_neg he]
    rfl
  · rfl

theorem run_runFrom_of_transient (more : ℕ) {index : ℕ}
    (h : isTransient (attemptAt interval attempt answer pass s index).1 = true) :
    (runFrom interval attempt (more + 1) index).run answer pass
        (stateAt interval attempt answer pass s index) =
      (runFrom interval attempt more (index + 1)).run answer pass
        (stateAt interval attempt answer pass s (index + 1)) := by
  rw [runFrom, Plan.run_bind, stateAt]
  unfold attemptAt at h
  generalize (attempt index).run answer pass _ = made at h ⊢
  obtain ⟨e | a, s'⟩ := made
  · have he : e.isRetryable = true := h
    simp only [if_pos he]
    rfl
  · cases h

theorem run_runFrom (more index : ℕ) :
    ∃ k, index ≤ k ∧ k ≤ index + more ∧
      (∀ j, index ≤ j → j < k →
        isTransient (attemptAt interval attempt answer pass s j).1 = true) ∧
      (isTransient (attemptAt interval attempt answer pass s k).1 = false ∨ k = index + more) ∧
      (runFrom interval attempt more index).run answer pass
          (stateAt interval attempt answer pass s index) =
        attemptAt interval attempt answer pass s k := by
  induction more generalizing index with
  | zero => exact ⟨index, le_rfl, le_rfl, by intros; omega, .inr rfl, rfl⟩
  | succ more ih =>
    cases hcase : isTransient (attemptAt interval attempt answer pass s index).1 with
    | false =>
      exact ⟨index, le_rfl, Nat.le_add_right _ _, by intros; omega, .inl hcase,
        run_runFrom_of_over interval attempt answer pass s more hcase⟩
    | true =>
      obtain ⟨k, hge, hle, hbefore, hover, hrun⟩ := ih (index + 1)
      have hgo := run_runFrom_of_transient interval attempt answer pass s more hcase
      refine ⟨k, by omega, by omega, ?_, ?_, hgo.trans hrun⟩
      · intro j hj hlt
        rcases Nat.eq_or_lt_of_le hj with rfl | hj
        · exact hcase
        · exact hbefore j hj hlt
      · exact hover.imp_right fun heq => by omega

/-- A policy ends as its last attempt does. -/
theorem run_run (p : RetryPolicy) :
    ∃ k, p.IsLast (fun j => (attemptAt p.interval attempt answer pass s j).1) k ∧
      (p.run attempt).run answer pass s = attemptAt p.interval attempt answer pass s k := by
  obtain ⟨k, -, hle, hbefore, hover, hrun⟩ :=
    run_runFrom p.interval attempt answer pass s (p.attempts - 1) 0
  have hpos := p.attempts_pos
  refine ⟨k, ⟨by omega, fun j hj => hbefore j (Nat.zero_le j) hj, ?_⟩, hrun⟩
  exact hover.imp_right fun heq => by omega

end Run

end Rollcall.RetryPolicy
