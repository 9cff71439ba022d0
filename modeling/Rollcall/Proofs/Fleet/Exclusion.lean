import Rollcall.Proofs.Fleet.Soundness
import Rollcall.Proofs.Fleet.Schedule

/-!
# Mutual exclusion of guarded jobs

At no time of any run are two processors with the same lock key between the start of a job and the
job's end, and while one of them is, no other starts its job.
-/

namespace Rollcall.Fleet

variable {f : Fleet (Faulty Cluster)}

/-- A processor that is at work has a provider of its own, whose session is alive and holds the
key. -/
theorem Sound.exists_holder (h : f.Sound) {n : Nat} {w : Worker} (hw : f.workers.get? n = some w)
    (hat : w.processor.isAtWork = true) :
    ∃ l, f.locks.get? w.lock = some l ∧
      f.backend.Lasts l.provider.session l.provider.ttl f.now ∧
      f.backend.Holds w.processor.settings.lockKey l.provider.session := by
  obtain ⟨l, hl, hguards⟩ := (h.worker n w hw).2 hat
  refine ⟨l, hl, (h.lock _ l hl).2.alive, ?_⟩
  cases hphase : w.processor.phase with
  | working guard rest resume deadline =>
    rw [hphase] at hguards
    exact hguards.2.2
  | _ => simp [Processor.isAtWork, hphase] at hat

/-- Of all processors with one lock key, at most one is at work at any time of any run. While one is
at work, another that begins a pass does not come to run its job. -/
theorem Reachable.exclusion (hf : Reachable f) {m n : Nat} {v w : Worker}
    (hv : f.workers.get? m = some v) (hw : f.workers.get? n = some w)
    (hkey : v.processor.settings.lockKey = w.processor.settings.lockKey)
    (hat : v.processor.isAtWork = true) :
    (w.processor.isAtWork = true → m = n) ∧
      (m ≠ n → w.processor.phase = .ready → ∀ w', (f.wake (.worker n)).workers.get? n = some w' →
        w'.processor.phase.IsIdle) := by
  have h := hf.sound
  obtain ⟨k, hk, hlasts, hholds⟩ := h.exists_holder hv hat
  have hgoing := Processor.isFinished_of_isAtWork hat
  constructor
  · intro hat'
    obtain ⟨l, hl, -, hholds'⟩ := h.exists_holder hw hat'
    rw [hkey] at hholds
    have hsame : k.provider.session = l.provider.session :=
      Option.some.inj (hholds.symm.trans hholds')
    have hlock := h.apart _ _ k l hk hl hsame
    exact h.alone m n v w hv hw hgoing (Processor.isFinished_of_isAtWork hat') hlock
  · intro hne hready w' hw'
    have hgoing' : w.processor.isFinished = false := by rw [Processor.isFinished, hready]
    simp only [Fleet.wake, hw] at hw'
    split at hw'
    · cases hw.symm.trans hw'
      rw [hready]
      trivial
    · next l hl =>
      have hother : l.provider.session ≠ k.provider.session := by
        intro hsame
        have hlock := h.apart _ _ k l hk hl hsame.symm
        exact hne (h.alone m n v w hv hw hgoing hgoing' hlock)
      simp only [sweep, Table.get?_put, if_true, Option.some.injEq] at hw'
      subst hw'
      rw [hkey] at hholds
      exact Processor.isIdle_wake h.backend hready hlasts hholds hother w.processor.random

def sweeper : Processor where
  settings := .standard
  job := .timed "sweep" (Duration.ofSecs 1) (.ok ())
  random := ⟨.replicate 8 0, 0⟩
  signal := {}

/-- One replica has been at work for more than two times to live, with its session renewed again and
again, when another comes. -/
theorem exclusion_of_two_replicas :
    ∃ f v w, Reachable f ∧ Duration.ofMillis 500 ≤ f.now ∧ f.workers.get? 2 = some v ∧
      f.workers.get? 3 = some w ∧ v.processor.isAtWork = true ∧ w.processor.phase = .ready ∧
      w.processor.isAtWork ≠ true ∧
      ∀ w', (f.wake (.worker 3)).workers.get? 3 = some w' → w'.processor.phase.IsIdle := by
  have hjob : Work.KeepsOffLocks sweeper.job.plan :=
    ⟨trivial, fun _ => ⟨trivial, fun _ => trivial⟩⟩
  have h0 := Reachable.start Registry.standard
  have h1 := h0.step (.openLock (le_refl shortestTtl))
  have h2 := h1.step (.openLock (le_refl shortestTtl))
  have h3 := h2.step (@Step.startWorker _ 0 sweeper rfl hjob rfl)
  have h4 := h3.runWhile (fun t _ => t ≤ Duration.ofMillis 500) 8
  have h5 := h4.step (@Step.startWorker _ 1 sweeper rfl hjob rfl)
  obtain ⟨hone, hidle⟩ := h5.exclusion (m := 2) (n := 3) rfl rfl rfl rfl
  refine ⟨_, _, _, h5, ?_, rfl, rfl, rfl, rfl, fun hat => ?_, ?_⟩
  · decide
  · exact absurd (hone hat) (by decide)
  · exact hidle (by decide) rfl

end Rollcall.Fleet
