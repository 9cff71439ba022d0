import Mathlib.Tactic
import Rollcall.Ticker

/-!
# Where a ticker ticks

A ticker is looked at wherever the clock stops, and ticks there, once, if it is due by then. So a
leap of the clock over many periods is followed by one tick, and two ticks are a period apart, up to
what a tick may be late.
-/

namespace Rollcall

namespace Ticker

variable {t u : Ticker} {now later : ℕ} {l times : List ℕ}

/-- The ticker after the clock has stopped at these instants, the latest first: it ticks at each of
them by which it is due. -/
def after (t : Ticker) : List ℕ → Ticker
  | [] => t
  | now :: l => if (t.after l).due ≤ now then (t.after l).advance now else t.after l

def ticks (t : Ticker) : List ℕ → List ℕ
  | [] => []
  | now :: l => if (t.after l).due ≤ now then now :: t.ticks l else t.ticks l

@[simp] theorem period_after (t : Ticker) (l : List ℕ) : (t.after l).period = t.period := by
  induction l with
  | nil => rfl
  | cons now l ih =>
    rw [after]
    split_ifs
    · rw [period_advance, ih]
    · exact ih

theorem add_period_le_advance (t : Ticker) (now : ℕ) :
    now + t.period ≤ (t.advance now).due + slack := by
  unfold advance
  split_ifs with h
  · simp only
    omega
  · simp only
    omega

theorem due_le_advance (h : t.due ≤ now) : t.due ≤ (t.advance now).due := by
  unfold advance
  split_ifs
  · exact Nat.le_add_right _ _
  · exact h.trans (Nat.le_add_right _ _)

theorem lt_due_after_cons (h : slack < t.period) (now : ℕ) (l : List ℕ) :
    now < (t.after (now :: l)).due := by
  rw [after]
  split_ifs with hdue
  · apply lt_due_advance
    rwa [period_after]
  · exact not_le.mp hdue

theorem add_period_le_after (t : Ticker) (l : List ℕ) :
    ∀ i ∈ t.ticks l, i + t.period ≤ (t.after l).due + slack := by
  induction l with
  | nil => simp [ticks]
  | cons now l ih =>
    intro i hi
    rw [after]
    rw [ticks] at hi
    split_ifs at hi ⊢ with hdue
    · rcases List.mem_cons.mp hi with rfl | hi
      · have hle := (t.after l).add_period_le_advance i
        rwa [period_after] at hle
      · exact (ih i hi).trans (Nat.add_le_add_right (due_le_advance hdue) _)
    · exact ih i hi

/-- Two ticks are a period apart, up to what a tick may be late. -/
theorem pairwise_ticks (t : Ticker) (l : List ℕ) :
    (t.ticks l).Pairwise fun later earlier => earlier + t.period ≤ later + slack := by
  induction l with
  | nil => exact .nil
  | cons now l ih =>
    rw [ticks]
    split_ifs with hdue
    · refine List.pairwise_cons.mpr ⟨fun i hi => ?_, ih⟩
      exact (t.add_period_le_after l i hi).trans (Nat.add_le_add_right hdue _)
    · exact ih

theorem getLast?_ticks (t : Ticker) (l : List ℕ) (h : l.getLast? = some t.due) :
    (t.ticks l).getLast? = some t.due := by
  induction l with
  | nil => cases h
  | cons now l ih =>
    cases l with
    | nil =>
      cases h
      simp [ticks, after]
    | cons i l =>
      rw [List.getLast?_cons_cons] at h
      rw [ticks]
      split_ifs
      · rw [List.getLast?_cons, ih h, Option.getD_some]
      · exact ih h

/-- What has become of a ticker where the clock has stopped: it has ticked wherever it was due, but
where the clock is now it may still have to. -/
inductive Serves (t : Ticker) : List ℕ → Ticker → List ℕ → Prop
  | idle (l : List ℕ) : Serves t l (t.after l) (t.ticks l)
  | owing {now : ℕ} {l : List ℕ} (hdue : (t.after l).due ≤ now) :
      Serves t (now :: l) (t.after l) (t.ticks l)

theorem Serves.eq_ticks_of_lt (h : t.Serves (now :: l) u times) (hu : now < u.due) :
    times = t.ticks (now :: l) := by
  cases h with
  | idle => rfl
  | owing hdue => exact absurd hu (not_lt.mpr hdue)

theorem Serves.eq_ticks (h : t.Serves l u times) : times = t.ticks l ∨ times = t.ticks l.tail := by
  cases h with
  | idle => exact .inl rfl
  | owing => exact .inr rfl

theorem Serves.pass (h : t.Serves (now :: l) u times) (hu : now < u.due) :
    t.Serves (later :: now :: l) u times := by
  cases h with
  | owing hdue => exact absurd hu (not_lt.mpr hdue)
  | idle =>
    by_cases hdue : (t.after (now :: l)).due ≤ later
    · exact .owing hdue
    · have hidle := Serves.idle (t := t) (later :: now :: l)
      rwa [after, ticks, if_neg hdue, if_neg hdue] at hidle

theorem Serves.tick (h : t.Serves (now :: l) u times) (hp : slack < t.period) (hu : u.due ≤ now) :
    t.Serves (now :: l) (u.advance now) (now :: times) := by
  cases h with
  | idle => exact absurd hu (not_le.mpr (lt_due_after_cons hp now l))
  | owing hdue =>
    have hidle := Serves.idle (t := t) (now :: l)
    rwa [after, ticks, if_pos hdue, if_pos hdue] at hidle

theorem Serves.pairwise (h : t.Serves l u times) :
    times.Pairwise fun later earlier => earlier + t.period ≤ later + slack := by
  cases h <;> exact pairwise_ticks _ _

end Ticker

end Rollcall
