import Rollcall.Proofs.Processor.Stopping

/-!
# The pause after a pass

How a pass came out says how long the pause after it is, and before that time is up no other pass
begins, whatever the clock does. There is one exception: any setting of the flag ends a pause, and
if it is not the word to stop the next pass begins at that very instant.
-/

namespace Rollcall.Processor

open Plan (Exchange atOnce)

variable {clock : Clock} {p q q' : Processor} {t u u' now ends b : ℕ} {outcome : Outcome}
  {l : List (Exchange Work)} {session : SessionId} {s : Moment} {h h' : List Moment}

theorem Run.ends_eq (r : Run p t (s :: h) q u)
    (hbefore : ∀ outcome ends, s.before.phase ≠ .pausing outcome ends)
    (hphase : q.phase = .pausing outcome ends) : ends = u + outcome.pause p.settings := by
  cases r with
  | wake r hdue hd hgo =>
    have hf := follows_of_proceeds hgo
    rw [← r.settings_eq.1]
    cases hf with
    | same => exact absurd hphase (hbefore _ _)
    | noticed hp => exact absurd hp (hbefore _ _)
    | passed =>
      cases hphase
      rfl
    | ended =>
      cases hphase
      rfl
    | _ => cases hphase
  | pass => exact absurd hphase (hbefore _ _)
  | send => exact absurd hphase (hbefore _ _)
  | drop => exact absurd hphase (hbefore _ _)

/-- By `b` the pause of a processor, which has done `h` in it, may be over: its time is up, or there
was news of its flag that was not the word to stop. -/
def MayEnd (q : Processor) (ends : ℕ) (h : List Moment) (b : ℕ) : Prop :=
  ends ≤ b ∨ q.signal.isNews = true ∧ q.signal.value = false ∨
    ∃ s ∈ h, s.incident = .sent false ∧ s.now ≤ b

theorem MayEnd.mono (hm : MayEnd q ends h b) (hsub : h ⊆ h') (hb : b ≤ u) :
    MayEnd q ends h' u := by
  rcases hm with hends | hnews | ⟨s, hs, hsent, hnow⟩
  · exact .inl (hends.trans hb)
  · exact .inr (.inl hnews)
  · exact .inr (.inr ⟨s, hsub hs, hsent, hnow.trans hb⟩)

/-- What has become of a processor that paused in `q`, by its flag and its phase: it pauses still,
and there is no news but the word to stop; or the pause may be over; or it has finished. -/
inductive Paused (q : Processor) (outcome : Outcome) (ends : ℕ) (h : List Moment) (signal : Signal)
    (phase : Phase) (now : ℕ) : Prop
  | still (hphase : phase = .pausing outcome ends)
      (hvalue : signal.isNews = true → signal.value = true)
  | past (h : MayEnd q ends h now)
  | finished (h : phase = .finished)

theorem Paused.mono {signal : Signal} {phase : Phase}
    (hp : Paused q outcome ends h signal phase u) (hsub : h ⊆ h') (hu : u ≤ u') :
    Paused q outcome ends h' signal phase u' := by
  cases hp with
  | still hphase hvalue => exact .still hphase hvalue
  | past h => exact .past (h.mono hsub hu)
  | finished h => exact .finished h

theorem MayEnd.cons_of_nil (hs : s.exchanges = []) (hb : ∀ b ∈ begun h, MayEnd q ends h b) :
    ∀ b ∈ begun (s :: h), MayEnd q ends (s :: h) b := by
  intro b hmem
  rw [begun_cons_of_nil hs] at hmem
  exact (hb b hmem).mono (List.subset_cons_self s h) le_rfl

/-- A pass begins only when the pause may be over. -/
theorem Paused.wake {q₁ q₂ : Processor} (hp : Paused q outcome ends h q₁.signal q₁.phase now)
    (hf : Follows now q₁ q₂) : Paused q outcome ends h q₂.signal q₂.phase now ∧
      ∀ b ∈ Moment.begun ⟨q₁, now, .woken l⟩, MayEnd q ends h b := by
  cases hp with
  | still hphase hvalue =>
    rw [Moment.begun_of_ne (by simp [hphase])]
    refine ⟨?_, nofun⟩
    cases hf with
    | same => exact .still hphase hvalue
    | rested hp hends =>
      cases hphase.symm.trans hp
      exact .past (.inl hends)
    | noticed _ _ hnews => exact .finished (if_pos (hvalue hnews))
    | abandoned => exact .finished rfl
    | stopped => exact .finished rfl
    | begun hp => cases hphase.symm.trans hp
    | passed hp => cases hphase.symm.trans hp
    | continued hp => cases hphase.symm.trans hp
    | ended hp => cases hphase.symm.trans hp
  | past h =>
    refine ⟨.past h, fun b hb => ?_⟩
    unfold Moment.begun at hb
    split at hb
    · rwa [List.mem_singleton.mp hb]
    · cases hb
  | finished hphase =>
    rw [Moment.begun_of_ne (by simp [hphase])]
    exact ⟨.finished (hf.finished hphase), nofun⟩

theorem Run.paused (r : Run q u h q' u') (hphase : q.phase = .pausing outcome ends) :
    Paused q outcome ends h q'.signal q'.phase u' ∧ ∀ b ∈ begun h, MayEnd q ends h b := by
  induction r with
  | start =>
    refine ⟨?_, nofun⟩
    by_cases hnews : q.signal.isNews = true ∧ q.signal.value = false
    · exact .past (.inr (.inl hnews))
    · exact .still hphase fun h => by simpa [h] using hnews
  | @wake h q₁ u₁ d session l q₂ r hdue hd hgo random ih =>
    obtain ⟨hpaused, hbegun⟩ := ih
    obtain ⟨hnext, hnow⟩ := hpaused.wake (l := l) (follows_of_proceeds hgo)
    have hsub := List.subset_cons_self ⟨q₁, u₁, .woken l⟩ h
    refine ⟨hnext.mono hsub le_rfl, fun b hb => ?_⟩
    rw [begun_cons, List.mem_append] at hb
    rcases hb with hb | hb
    · exact (hbegun b hb).mono hsub le_rfl
    · exact (hnow b hb).mono hsub le_rfl
  | pass r htarget ih =>
    exact ⟨ih.1.mono (List.subset_cons_self _ _) htarget, MayEnd.cons_of_nil rfl ih.2⟩
  | @send h q₁ u₁ r hheld value ih =>
    refine ⟨?_, MayEnd.cons_of_nil rfl ih.2⟩
    cases value with
    | false => exact .past (.inr (.inr ⟨_, .head _, rfl, le_rfl⟩))
    | true =>
      cases ih.1.mono (List.subset_cons_self ⟨q₁, u₁, .sent true⟩ h) le_rfl with
      | still hphase => exact .still hphase fun _ => rfl
      | past h => exact .past h
      | finished h => exact .finished h
  | @drop h q₁ u₁ r ih =>
    refine ⟨?_, MayEnd.cons_of_nil rfl ih.2⟩
    cases ih.1.mono (List.subset_cons_self ⟨q₁, u₁, .dropped⟩ h) le_rfl with
    | still hphase hvalue => exact .still hphase hvalue
    | past h => exact .past h
    | finished h => exact .finished h

theorem Run.begun_of_news (r : Run q u h q' u') (hu : clock.IsClosed u)
    (hpunctual : ∀ s ∈ h, s.IsPunctual clock) (hnot : ∀ s ∈ h, s.incident ≠ .sent true)
    (hphase : q.phase = .pausing outcome ends) (hends : u < ends)
    (hnews : q.signal.isNews = true) (hvalue : q.signal.value = false) :
    u ∈ begun h ∨ u' = u ∧ q'.signal.value = false ∧
      (q'.phase = .ready ∨ q'.phase = .pausing outcome ends ∧ q'.signal.isNews = true) := by
  induction r with
  | start => exact .inr ⟨rfl, hvalue, .inr ⟨hphase, hnews⟩⟩
  | @wake h q₁ u₁ d session l q₂ r hdue hd hgo random ih =>
    rw [List.forall_mem_cons] at hpunctual hnot
    have hnow := r.isClosed hu hpunctual.2
    rw [begun_cons, List.mem_append]
    rcases ih hpunctual.2 hnot.2 with hbegun | ⟨rfl, hunset, hgoing⟩
    · exact .inl (.inl hbegun)
    · obtain ⟨signal, phase, hturns, rfl⟩ := exists_turns hnow hdue hd hgo
      rcases hgoing with hready | ⟨hpausing, hset⟩
      · left; right
        cases hturns with
        | contended hp => exact Moment.begun_of_ready hp ▸ List.mem_singleton_self _
        | refused hp => exact Moment.begun_of_ready hp ▸ List.mem_singleton_self _
        | acquired hp => exact Moment.begun_of_ready hp ▸ List.mem_singleton_self _
        | stopped _ hstop => exact absurd (hunset.symm.trans hstop) Bool.false_ne_true
        | rested hp => cases hready.symm.trans hp
        | noticed hp => cases hready.symm.trans hp
        | abandoned hp => cases hready.symm.trans hp
        | resumed hp => cases hready.symm.trans hp
        | expired hp => cases hready.symm.trans hp
      · refine .inr ⟨rfl, ?_⟩
        cases hturns with
        | noticed => exact ⟨hunset, .inl (by simp [hunset])⟩
        | rested hp hover =>
          cases hpausing.symm.trans hp
          exact absurd hover (not_le.mpr hends)
        | abandoned _ _ hnone => exact absurd (hnone.symm.trans hset) Bool.false_ne_true
        | stopped hp => cases hpausing.symm.trans hp
        | contended hp => cases hpausing.symm.trans hp
        | refused hp => cases hpausing.symm.trans hp
        | acquired hp => cases hpausing.symm.trans hp
        | resumed hp => cases hpausing.symm.trans hp
        | expired hp => cases hpausing.symm.trans hp
  | @pass h q₁ u₁ r target htarget ih =>
    rw [List.forall_mem_cons] at hpunctual hnot
    have hnow := r.isClosed hu hpunctual.2
    rw [begun_cons_of_nil rfl]
    rcases ih hpunctual.2 hnot.2 with hbegun | ⟨rfl, hunset, hgoing⟩
    · exact .inl hbegun
    · have hdue : q₁.due = some 0 := by
        rcases hgoing with hready | ⟨hpausing, hset⟩
        · rw [due, hready]
        · exact due_of_isNews hpausing hset
      exact .inr ⟨hpunctual.1.eq_now hnow htarget hdue, hunset, hgoing⟩
  | send r hheld value ih =>
    rw [List.forall_mem_cons] at hpunctual hnot
    rw [begun_cons_of_nil rfl]
    have hfalse : value = false := by
      by_contra htrue
      exact hnot.1 (by rw [Bool.eq_true_of_not_eq_false htrue])
    rcases ih hpunctual.2 hnot.2 with hbegun | ⟨hnow, -, hgoing⟩
    · exact .inl hbegun
    · exact .inr ⟨hnow, hfalse, hgoing.imp_right fun h => ⟨h.1, rfl⟩⟩
  | drop r ih =>
    rw [List.forall_mem_cons] at hpunctual hnot
    rw [begun_cons_of_nil rfl]
    exact ih hpunctual.2 hnot.2

/-- After a pass the next one begins no earlier than its outcome says, unless the flag is set before
that, and not to stop. A pause in which it is set so is over at once: on a clock without jumps the
next pass begins before time goes on. -/
theorem Run.spaced (r : Run p t (s :: h) q u)
    (hbefore : ∀ outcome ends, s.before.phase ≠ .pausing outcome ends)
    (hphase : q.phase = .pausing outcome ends) (r' : Run q u h' q' u') :
    (∀ b ∈ begun h', u + outcome.pause p.settings ≤ b ∨
      q.signal.isNews = true ∧ q.signal.value = false ∨
        ∃ m ∈ h', m.incident = .sent false ∧ m.now ≤ b) ∧
    (q'.phase = .pausing outcome ends → u' < ends →
      q'.signal.isNews = true → q'.signal.value = false →
        ∀ clock : Clock, clock.IsClosed u' → ∀ h'' q'' u'', Run q' u' h'' q'' u'' →
          (∀ m ∈ h'', m.IsPunctual clock ∧ m.incident ≠ .sent true) → u' < u'' →
            u' ∈ begun h'') := by
  constructor
  · rw [← r.ends_eq hbefore hphase]
    exact (r'.paused hphase).2
  · intro hphase' hends hnews hvalue clock hclosed h'' q'' u'' r'' hcalm hlater
    have hbegun := r''.begun_of_news hclosed (fun m hm => (hcalm m hm).1)
      (fun m hm => (hcalm m hm).2) hphase' hends hnews hvalue
    exact hbegun.resolve_right fun h => absurd h.1 hlater.ne'

theorem spaced_of_steady : ∃ h, Run (midway {}) (Duration.ofMillis 500) h (resting {})
      (Duration.ofMillis 1000) ∧
    ∀ h' q' u', Run (resting {}) (Duration.ofMillis 1000) h' q' u' →
      (∀ m ∈ h', m.incident ≠ .sent false) →
        ∀ b ∈ begun h', Duration.ofMillis 1000 + Settings.standard.runInterval ≤ b := by
  obtain ⟨s, h, hs, r, -⟩ := exists_run_ended {}
  refine ⟨_, r, fun h' q' u' r' hsent b hb => ?_⟩
  rcases (r.spaced (by simp [hs, midway]) rfl r').1 b hb with hlater | ⟨hnews, -⟩ | ⟨m, hm, hfalse, -⟩
  · exact hlater
  · cases hnews
  · exact absurd hfalse (hsent m hm)

/-- The flag is never set to stop, and its owner is there, but the second pass begins in the middle
of the pause after the first, which came to its end. -/
theorem exists_begun_in_pause : ∃ (p q q' : Processor) (t u b ends : ℕ) (s : Moment)
    (h h' : List Moment),
    p.phase = .ready ∧ Run p 0 (s :: h) q t ∧ Run q t h' q' u ∧
      (∀ m ∈ h' ++ s :: h, m.IsPunctual .milli ∧ m.incident ≠ .sent true) ∧
      q'.signal.isDropped = false ∧ (∀ outcome ends, s.before.phase ≠ .pausing outcome ends) ∧
      q.phase = .pausing .completed ends ∧ b ∈ begun h' ∧ b < t + p.settings.runInterval := by
  obtain ⟨h₁, r₁, hpunctual₁, hsent₁⟩ := exists_run_midway
  obtain ⟨s, h₂, hs, r₂, hpunctual₂, hsent₂⟩ := exists_run_ended {}
  obtain ⟨h₃, q', r₃, hwoken, hbegun, hsignal⟩ :=
    exists_run_recalled { isNews := true } 1500 rfl rfl (by decide)
  -- half a second into the pause the flag is set to what it is
  have hset : Run (resting {}) (Duration.ofMillis 1000)
      [⟨resting {}, Duration.ofMillis 1500, .sent false⟩,
        ⟨resting {}, Duration.ofMillis 1000, .passed (Duration.ofMillis 1500)⟩]
      (resting { isNews := true }) (Duration.ofMillis 1500) :=
    .send (.pass .start (by decide)) rfl false
  have hpass : Moment.IsPunctual .milli
      ⟨resting {}, Duration.ofMillis 1000, .passed (Duration.ofMillis 1500)⟩ := by
    rintro _ ⟨⟩
    refine ⟨Clock.isClosed_milli 1500, ?_⟩
    rintro _ ⟨⟩
    refine le_trans ?_ (Clock.milli.le_closure _)
    decide
  have hcalm : ∀ m ∈ (s :: h₂) ++ h₁, m.IsPunctual .milli ∧ m.incident ≠ .sent true :=
    List.forall_mem_append.mpr ⟨fun m hm => ⟨hpunctual₂ m hm, hsent₂ m hm true⟩,
      fun m hm => ⟨hpunctual₁ m hm, hsent₁ m hm true⟩⟩
  refine ⟨steady, resting {}, q', _, _, Duration.ofMillis 1500, _, s, _, _, rfl, r₁.trans r₂,
    hset.trans r₃, ?_, ?_, ?_, rfl, ?_, ?_⟩
  · refine List.forall_mem_append.mpr ⟨List.forall_mem_append.mpr ⟨fun m hm => ?_, ?_⟩, hcalm⟩
    · obtain ⟨l, hl⟩ := hwoken m hm
      constructor
      · intro target htarget
        cases hl.symm.trans htarget
      · simp [hl]
    · exact List.forall_mem_cons.mpr ⟨⟨Moment.isPunctual_sent, by simp⟩,
        List.forall_mem_singleton.mpr ⟨hpass, by simp⟩⟩
  · rw [hsignal]
    rfl
  · simp [hs, midway]
  · rw [begun_append, hbegun]
    exact List.mem_append_right _ (List.mem_singleton_self _)
  · decide

end Rollcall.Processor
