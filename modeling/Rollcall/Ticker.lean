import Rollcall.Time

/-!
# Periodic timers

A ticker is due at a known instant and, once run, is due again one period later. Run at most five
milliseconds late it keeps its grid; run later than that it starts a new grid at the present time,
so a long sleep is followed by one tick and not by a burst of missed ones.
-/
namespace Rollcall

structure Ticker where
  period : Nat
  due : Nat
  deriving DecidableEq, Repr

namespace Ticker

/-- How late a tick may run without moving the grid. -/
def slack : Nat := Duration.ofMillis 5

/-- The ticker after its tick was run at `now`. -/
def advance (t : Ticker) (now : Nat) : Ticker :=
  if now ≤ t.due + slack then { t with due := t.due + t.period }
  else { t with due := now + t.period }

@[simp] theorem period_advance (t : Ticker) (now : Nat) : (t.advance now).period = t.period := by
  unfold advance; split <;> rfl

/-- A tick that was due is followed by none at the same instant. -/
theorem lt_due_advance {t : Ticker} {now : Nat} (h : slack < t.period) :
    now < (t.advance now).due := by
  unfold advance
  split <;> simp only <;> omega

end Ticker

end Rollcall
