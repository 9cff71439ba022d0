import Rollcall.Proofs.Fleet.Turn

/-!
# The phases of a processor

A turn of a processor takes it from one phase to the next, and the cases below are all that a turn
may come to, whatever the answers to its calls. A processor that has been told to stop begins no
pass any more; and at one instant a processor has only a few turns, so that after them it waits for
the clock or has finished.
-/

namespace Rollcall

namespace Plan

variable {I : Interface} {α : Type}

theorem upToWait_meets (p : Plan I α) :
    p.upToWait.Meets (fun _ => True) fun stop => ∀ d rest, stop = .waiting d rest → 0 < d := by
  induction p with
  | done a => exact nofun
  | ask op next ih => exact ⟨trivial, ih⟩
  | wait d next ih =>
    cases d with
    | zero => exact ih ()
    | succ d =>
      rintro _ _ ⟨⟩
      exact Nat.succ_pos d

end Plan

namespace Signal

variable {s : Signal}

/-- How many turns a flag may give a processor: a setting of it ends a pause, and another pass may
come after that. -/
def noticing (s : Signal) : Nat := (if s.isNews then 2 else 0) + if s.isDropped then 1 else 0

theorem noticing_le (s : Signal) : s.noticing ≤ 3 := by
  unfold noticing
  split_ifs <;> decide

theorem noticing_look (h : s.isNews = true) : s.look.noticing + 2 = s.noticing := by
  obtain ⟨value, isNews, isDropped⟩ := s
  cases h
  cases isDropped <;> rfl

theorem noticing_pos (h : s.isDropped = true) : 0 < s.noticing := by
  obtain ⟨value, isNews, isDropped⟩ := s
  cases h
  exact Nat.succ_pos _

end Signal

namespace Processor

variable {now t deadline : Nat} {p q : Processor} {session : SessionId}

inductive Follows (now : Nat) (p : Processor) : Processor → Prop
  | same (hp : ∀ t, p.due = some t → now < t) : Follows now p p
  | rested {outcome t} (hp : p.phase = .pausing outcome t) (ht : t ≤ now) :
      Follows now p (p.withPhase .ready)
  | noticed {outcome t} (hp : p.phase = .pausing outcome t) (ht : now < t)
      (hnews : p.signal.isNews = true) :
      Follows now p { p with signal := p.signal.look,
                             phase := if p.signal.value then .finished else .ready }
  | abandoned {outcome t} (hp : p.phase = .pausing outcome t) (ht : now < t)
      (hnews : p.signal.isNews = false) (hdropped : p.signal.isDropped = true) :
      Follows now p (p.withPhase .finished)
  | stopped (hp : p.phase = .ready) (hvalue : p.signal.value = true) :
      Follows now p (p.withPhase .finished)
  | begun {guard rest resume deadline} (hp : p.phase = .ready) (hvalue : p.signal.value = false)
      (hresume : now < resume) (hdeadline : now < deadline) :
      Follows now p (p.withPhase (.working guard rest resume deadline))
  | passed {outcome} (hp : p.phase = .ready) (hvalue : p.signal.value = false) :
      Follows now p (p.withPhase (.pausing outcome (now + outcome.pause p.settings)))
  | continued {guard rest resume deadline rest' resume'}
      (hp : p.phase = .working guard rest resume deadline) (hdue : min resume deadline ≤ now)
      (hresume : now < resume') (hdeadline : now < deadline) :
      Follows now p (p.withPhase (.working guard rest' resume' deadline))
  | ended {guard rest resume deadline outcome} (hp : p.phase = .working guard rest resume deadline)
      (hdue : min resume deadline ≤ now) :
      Follows now p (p.withPhase (.pausing outcome (now + outcome.pause p.settings)))

theorem endPass_meets_pausing (settings : Settings) (guard : LockGuard) (outcome : Outcome)
    (now : Nat) : (endPass settings guard outcome now).Meets (fun _ => True)
      (· = .pausing outcome (now + outcome.pause settings)) :=
  ⟨trivial, fun _ => rfl⟩

theorem burst_meets (settings : Settings) (guard : LockGuard) (deadline now : Nat)
    (rest : Plan Work (Except Error Unit)) :
    (burst settings guard deadline now rest).Meets (fun _ => True) fun phase =>
      (∃ outcome : Outcome, phase = .pausing outcome (now + outcome.pause settings)) ∨
        ∃ rest' resume, phase = .working guard rest' resume deadline ∧ now < resume ∧
          now < deadline := by
  refine (Plan.upToWait_meets rest).bind fun stop hstop => ?_
  have hend : ∀ outcome : Outcome, (endPass settings guard outcome now).Meets (fun _ => True)
      fun phase => (∃ outcome : Outcome, phase = .pausing outcome (now + outcome.pause settings)) ∨
        ∃ rest' resume, phase = .working guard rest' resume deadline ∧ now < resume ∧
          now < deadline := fun outcome =>
    (endPass_meets_pausing settings guard outcome now).mono (fun _ h => h) fun _ h =>
      .inl ⟨outcome, h⟩
  rcases stop with result | ⟨d, rest'⟩
  · exact hend _
  · simp only [afterBurst]
    split_ifs with hdeadline
    · exact hend _
    · have := hstop d rest' rfl
      exact .inr ⟨rest', _, rfl, by omega, not_le.mp hdeadline⟩

theorem wake_meets_follows (p : Processor) (session : SessionId) (now : Nat) :
    (p.wake session now).Meets (fun _ => True) (Follows now p) := by
  unfold wake
  split
  · next hphase => exact .same (by simp [due, hphase])
  · next hphase =>
    split_ifs with hvalue
    · exact .stopped hphase hvalue
    · have hvalue : p.signal.value = false := by simpa using hvalue
      rw [begin_eq]
      refine ⟨trivial, fun (r : Except Error Bool) => ?_⟩
      rcases r with e | _ | _
      · exact @Follows.passed now p .lockError hphase hvalue
      · exact @Follows.passed now p .contended hphase hvalue
      · refine (burst_meets _ _ _ _ _).bind ?_
        rintro _ (⟨outcome, rfl⟩ | ⟨rest', resume, rfl, hresume, hdeadline⟩)
        · exact .passed hphase hvalue
        · exact .begun hphase hvalue hresume hdeadline
  · next guard rest resume deadline hphase =>
    split_ifs with hresume hdeadline
    · refine (burst_meets _ _ _ _ _).bind ?_
      rintro _ (⟨outcome, rfl⟩ | ⟨rest', resume', rfl, hresume', hdeadline⟩)
      · exact .ended hphase (min_le_of_left_le hresume)
      · exact .continued hphase (min_le_of_left_le hresume) hresume' hdeadline
    · exact (endPass_meets_pausing _ _ _ _).bind fun _ h =>
        h ▸ .ended hphase (min_le_of_right_le hdeadline)
    · refine .same fun t ht => ?_
      simp only [due, hphase, Option.some.injEq] at ht
      omega
  · next outcome t hphase =>
    by_cases ht : t ≤ now
    · rw [if_pos ht]
      exact .rested hphase ht
    · rw [if_neg ht]
      by_cases hnews : p.signal.isNews = true
      · rw [if_pos hnews]
        exact .noticed hphase (not_le.mp ht) hnews
      · rw [if_neg hnews]
        split_ifs with hdropped
        · exact .abandoned hphase (not_le.mp ht) (by simpa using hnews) hdropped
        · refine .same fun t' ht' => ?_
          simp only [due, hphase, Signal.stirs, hnews, hdropped] at ht'
          simp at ht'
          omega

/-- How many turns a processor may want at an instant, if its flag is good for some. -/
def Phase.rank (now noticing : Nat) : Phase → Nat
  | .finished => 0
  | .ready => noticing + 1
  | .working _ _ resume deadline => if min resume deadline ≤ now then noticing + 3 else 0
  | .pausing _ t => if t ≤ now then noticing + 2 else noticing

def rank (now : Nat) (p : Processor) : Nat := p.phase.rank now p.signal.noticing

theorem rank_le (now : Nat) (p : Processor) : p.rank now ≤ 6 := by
  have hphase : ∀ noticing, p.phase.rank now noticing ≤ noticing + 3 := by
    intro noticing
    unfold Phase.rank
    split
    · exact Nat.zero_le _
    · omega
    · split_ifs <;> omega
    · split_ifs <;> omega
  have := p.signal.noticing_le
  have := hphase p.signal.noticing
  unfold rank
  omega

/-- The processor has been told to stop, or it does not go without pauses. -/
def Rests (p : Processor) : Prop :=
  p.signal.value = true ∨ 0 < p.settings.retryBackoff ∧ 0 < p.settings.runInterval

theorem Follows.rests (hf : Follows now p q) (hr : p.Rests) : q.Rests := by
  cases hf <;> exact hr

theorem pause_pos {settings : Settings} (hb : 0 < settings.retryBackoff)
    (hi : 0 < settings.runInterval) (outcome : Outcome) : 0 < outcome.pause settings := by
  cases outcome <;> assumption

theorem Follows.rank_lt (hf : Follows now p q) (hr : p.Rests) (hdue : p.due = some t)
    (ht : t ≤ now) : q.rank now < p.rank now := by
  unfold rank
  cases hf with
  | same hp => exact absurd ht (not_le.mpr (hp t hdue))
  | rested hp ht =>
    simp only [withPhase, hp, Phase.rank, if_pos ht]
    omega
  | noticed hp ht hnews =>
    have hlook := Signal.noticing_look hnews
    simp only [hp, Phase.rank, if_neg (not_le.mpr ht)]
    split_ifs
    · simp only
      omega
    · simp only
      omega
  | abandoned hp ht hnews hdropped =>
    have hpos := Signal.noticing_pos hdropped
    simp only [withPhase, hp, Phase.rank, if_neg (not_le.mpr ht)]
    exact hpos
  | stopped hp hvalue =>
    simp only [withPhase, hp, Phase.rank]
    omega
  | begun hp hvalue hresume hdeadline =>
    simp only [withPhase, hp, Phase.rank, if_neg (not_le.mpr (lt_min hresume hdeadline))]
    omega
  | @passed outcome hp hvalue =>
    obtain ⟨hb, hi⟩ := hr.resolve_left (by simp [hvalue])
    have hpause : ¬ now + outcome.pause p.settings ≤ now := by
      have := pause_pos hb hi outcome
      omega
    simp only [withPhase, hp, Phase.rank, if_neg hpause]
    omega
  | continued hp hdue hresume hdeadline =>
    simp only [withPhase, hp, Phase.rank, if_pos hdue,
      if_neg (not_le.mpr (lt_min hresume hdeadline))]
    omega
  | ended hp hdue =>
    simp only [withPhase, hp, Phase.rank, if_pos hdue]
    split_ifs <;> omega

def EndsBy (limit : Nat) (p : Processor) : Prop :=
  p.isFinished = true ∨ p.signal.value = true ∧ p.signal.isNews = true ∧
    ∀ guard rest resume deadline, p.phase = .working guard rest resume deadline → deadline ≤ limit

theorem Follows.isFinished (hf : Follows now p q) (hp : p.isFinished = true) :
    q.isFinished = true := by
  have hphase := phase_of_isFinished hp
  cases hf with
  | same => exact hp
  | _ => simp_all

theorem Follows.endsBy {limit : Nat} (hf : Follows now p q) (he : p.EndsBy limit) :
    q.EndsBy limit := by
  rcases he with hfinished | ⟨hvalue, hnews, hlimit⟩
  · exact .inl (hf.isFinished hfinished)
  · cases hf with
    | same => exact .inr ⟨hvalue, hnews, hlimit⟩
    | rested => exact .inr ⟨hvalue, hnews, nofun⟩
    | noticed => exact .inl (by simp only [hvalue, if_true]; rfl)
    | abandoned => exact .inl rfl
    | stopped => exact .inl rfl
    | begun hp hunset => exact absurd (hunset.symm.trans hvalue) Bool.false_ne_true
    | passed hp hunset => exact absurd (hunset.symm.trans hvalue) Bool.false_ne_true
    | continued hp =>
      refine .inr ⟨hvalue, hnews, ?_⟩
      rintro _ _ _ _ ⟨⟩
      exact hlimit _ _ _ _ hp
    | ended => exact .inr ⟨hvalue, hnews, nofun⟩

/-- A processor that has been told to stop, and has nothing to do at the instant, has finished or is
in the middle of its last job. -/
theorem EndsBy.working {limit : Nat} (he : p.EndsBy limit) (hquiet : ∀ t, p.due = some t → now < t)
    (hp : p.isFinished = false) : ∃ guard rest resume deadline,
      p.phase = .working guard rest resume deadline ∧ deadline ≤ limit := by
  rcases he with hfinished | ⟨hvalue, hnews, hlimit⟩
  · exact absurd (hp.symm.trans hfinished) Bool.false_ne_true
  · cases hphase : p.phase with
    | ready => exact absurd (hquiet 0 (by rw [due, hphase])) (Nat.not_lt_zero _)
    | pausing outcome t =>
      exact absurd (hquiet 0 (by simp [due, hphase, Signal.stirs, hnews])) (Nat.not_lt_zero _)
    | working guard rest resume deadline =>
      exact ⟨guard, rest, resume, deadline, rfl, hlimit _ _ _ _ hphase⟩
    | finished => simp [isFinished, hphase] at hp

end Processor

end Rollcall
