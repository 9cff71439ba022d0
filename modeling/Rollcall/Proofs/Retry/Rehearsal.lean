import Rollcall.Proofs.Retry
import Rollcall.Retry.Rehearsal

/-!
# Rehearsals of a policy

A rehearsal makes its first attempt at once and each further one a pause after the one before has
ended. It stops with the attempt whose outcome is its own, and nothing is waited after that.
-/

namespace Rollcall.RetryPolicy

variable {α : Type} {p : RetryPolicy} {outcome : ℕ → Except Error α} {k m : ℕ}

/-- The last attempt is the first that is not worth another, if the attempts go that far. -/
theorem IsLast.eq_min (hk : p.IsLast outcome k) (hm : isTransient (outcome m) = false)
    (hbefore : ∀ j < m, isTransient (outcome j) = true) :
    k + 1 = min (m + 1) p.attempts := by
  have hle : k ≤ m := by
    by_contra hlt
    rw [hk.transient_before m (not_le.mp hlt)] at hm
    cases hm
  have hlt := hk.lt_attempts
  rcases hk.is_over with hover | hover
  · have hge : m ≤ k := by
      by_contra hkm
      rw [hbefore k (not_le.mp hkm)] at hover
      cases hover
    omega
  · omega

theorem IsLast.eq_attempts (hk : p.IsLast outcome k)
    (hall : ∀ j, isTransient (outcome j) = true) : k + 1 = p.attempts := by
  apply hk.is_over.resolve_left
  rw [hall k]
  intro h
  cases h

/-- When an attempt starts if all before it are worth another. -/
def startOf (interval : ℕ) (trial : ℕ → Trial α) : ℕ → ℕ
  | 0 => 0
  | k + 1 => startOf interval trial k + (trial k).duration + interval

variable (p : RetryPolicy) (trial : ℕ → Trial α)

def noteStart (_ : ℕ) (s : ℕ × List ℕ) : Unit × (ℕ × List ℕ) := ((), (s.1, s.1 :: s.2))

def passTime (d : ℕ) (s : ℕ × List ℕ) : ℕ × List ℕ := (s.1 + d, s.2)

theorem run_attempt (k : ℕ) (s : ℕ × List ℕ) :
    (attempt trial k).run noteStart passTime s =
      ((trial k).outcome, (s.1 + (trial k).duration, s.1 :: s.2)) := rfl

theorem stateAt_attempt (interval k : ℕ) :
    stateAt interval (attempt trial) noteStart passTime (0, []) k =
      (startOf interval trial k, ((List.range k).map (startOf interval trial)).reverse) := by
  induction k with
  | zero => rfl
  | succ k ih =>
    rw [stateAt, ih, run_attempt, List.range_succ, List.map_append, List.reverse_append]
    rfl

theorem attemptAt_attempt (interval k : ℕ) :
    attemptAt interval (attempt trial) noteStart passTime (0, []) k =
      ((trial k).outcome, (startOf interval trial k + (trial k).duration,
        ((List.range (k + 1)).map (startOf interval trial)).reverse)) := by
  rw [attemptAt, stateAt_attempt, run_attempt, List.range_succ, List.map_append,
    List.reverse_append]
  rfl

theorem rehearse_eq : ∃ k, p.IsLast (fun j => (trial j).outcome) k ∧
    p.rehearse trial =
      { started := (List.range (k + 1)).map (startOf p.interval trial)
        elapsed := startOf p.interval trial k + (trial k).duration
        result := (trial k).outcome } := by
  obtain ⟨k, hlast, hrun⟩ := run_run (attempt trial) noteStart passTime (0, []) p
  simp only [attemptAt_attempt] at hlast hrun
  refine ⟨k, hlast, ?_⟩
  have hrehearse : p.rehearse trial =
      let ran := (p.run (attempt trial)).run noteStart passTime (0, [])
      { started := ran.2.2.reverse, elapsed := ran.2.1, result := ran.1 } := rfl
  rw [hrehearse, hrun]
  simp

/-- A policy makes attempts up to the first that is not worth another, or as many as it allows, and
at least one. The last of them gives the result; the first is made at once, each other one a pause
after the one before it has ended, and with the last it is over. -/
theorem rehearse_exact : ∃ k,
    (∀ m, isTransient (trial m).outcome = false →
      (∀ j < m, isTransient (trial j).outcome = true) → k + 1 = min (m + 1) (max 1 p.maxAttempts)) ∧
    ((∀ j, isTransient (trial j).outcome = true) → k + 1 = max 1 p.maxAttempts) ∧
    (p.rehearse trial).started.length = k + 1 ∧
    (p.rehearse trial).result = (trial k).outcome ∧
    (p.rehearse trial).started[0]? = some 0 ∧
    (∀ i < k, ∃ t, (p.rehearse trial).started[i]? = some t ∧
      (p.rehearse trial).started[i + 1]? = some (t + (trial i).duration + p.interval)) ∧
    ∃ t, (p.rehearse trial).started[k]? = some t ∧
      (p.rehearse trial).elapsed = t + (trial k).duration := by
  obtain ⟨k, hlast, heq⟩ := rehearse_eq p trial
  have hstart : ∀ i ≤ k, (p.rehearse trial).started[i]? = some (startOf p.interval trial i) := by
    intro i hi
    rw [heq, List.getElem?_map, List.getElem?_range (Nat.lt_succ_of_le hi)]
    rfl
  refine ⟨k, ?_, ?_, ?_, ?_, ?_, ?_, ?_⟩
  · intro m hm hbefore
    exact hlast.eq_min hm hbefore
  · intro hall
    exact hlast.eq_attempts hall
  · simp [heq]
  · rw [heq]
  · exact hstart 0 (Nat.zero_le k)
  · intro i hi
    exact ⟨_, hstart i hi.le, hstart (i + 1) hi⟩
  · exact ⟨_, hstart k le_rfl, by rw [heq]⟩

theorem rehearse_exact_of_outage :
    let down (j : ℕ) : Trial Unit := ⟨5, .error (.unavailable s!"down {j}")⟩
    let ran := (⟨2, 10⟩ : RetryPolicy).rehearse down
    ran.started = [0, 15] ∧ ran.elapsed = 20 ∧ ran.result = .error (.unavailable "down 1") := by
  intro down ran
  obtain ⟨k, -, hall, hlength, hresult, hfirst, hnext, t, ht, helapsed⟩ :=
    rehearse_exact ⟨2, 10⟩ down
  have hk : k + 1 = 2 := hall fun j => rfl
  obtain rfl : k = 1 := by omega
  obtain ⟨t₀, ht₀, ht₁⟩ := hnext 0 Nat.zero_lt_one
  obtain rfl : 0 = t₀ := Option.some.inj (hfirst.symm.trans ht₀)
  obtain rfl : 15 = t := Option.some.inj (ht₁.symm.trans ht)
  refine ⟨?_, helapsed, hresult⟩
  apply List.ext_getElem?
  intro i
  match i with
  | 0 => exact hfirst
  | 1 => exact ht
  | i + 2 => exact List.getElem?_eq_none (hlength.le.trans (Nat.le_add_left 2 i))

end Rollcall.RetryPolicy
