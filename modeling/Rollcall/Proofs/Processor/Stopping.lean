import Rollcall.Proofs.Processor.Passes

/-!
# How a processor stops

A processor that has been told to stop, and is not told otherwise, begins no pass any more: the job
that it is in the middle of has until its time is up. So it is when its owner goes away in a pass or
in a pause, but for what the owner sent last: if the processor has not looked at that yet, it looks
at it before it notices that the owner is gone, and begins one more pass unless it was the word to
stop.
-/

namespace Rollcall.Processor

open Plan (Exchange atOnce)

namespace Phase

/-- When the job that a processor is in the middle of is over at the latest. -/
def limit : Phase → ℕ
  | .working _ _ _ deadline => deadline
  | _ => 0

def IsBusy (now : ℕ) : Phase → Prop
  | .working .. => True
  | .pausing _ ends => now < ends
  | .ready | .finished => False

/-- How many passes a processor whose owner is gone may still begin, if there is `news` of its
flag. -/
def spare (now news : ℕ) : Phase → ℕ
  | .finished => 0
  | .ready => news + 1
  | .working .. => news
  | .pausing _ ends => if ends ≤ now then news + 1 else news

theorem spare_of_isBusy {now news : ℕ} {phase : Phase} (h : phase.IsBusy now) :
    phase.spare now news = news := by
  cases phase with
  | working => rfl
  | pausing outcome ends => exact if_neg (not_le.mpr h)
  | ready => exact h.elim
  | finished => exact h.elim

end Phase

/-- With this flag and phase a processor begins no pass any more, and is done by the limit. -/
inductive Ceases (limit now : ℕ) (signal : Signal) (phase : Phase) : Prop
  | finished (h : phase = .finished)
  | told (hvalue : signal.value = true) (hseen : phase = .ready ∨ signal.isNews = true)
      (hlimit : phase.limit ≤ limit)
  | deserted (hdropped : signal.isDropped = true) (hnews : signal.isNews = false)
      (hbusy : phase.IsBusy now) (hlimit : phase.limit ≤ limit)

section Turn

variable {clock : Clock} {now target limit d : ℕ} {p q : Processor} {session : SessionId}
  {l : List (Exchange Work)}

theorem Follows.finished (hf : Follows now p q) (hp : p.phase = .finished) :
    q.phase = .finished := by
  refine phase_of_isFinished (hf.isFinished ?_)
  unfold Processor.isFinished
  rw [hp]

theorem Follows.ceases (hf : Follows now p q)
    (hpauses : ∀ outcome : Outcome, 0 < outcome.pause p.settings)
    (hc : Ceases limit now p.signal p.phase) : Ceases limit now q.signal q.phase := by
  cases hc with
  | finished h => exact .finished (hf.finished h)
  | told hvalue hseen hlimit =>
    cases hf with
    | same => exact .told hvalue hseen hlimit
    | rested => exact .told hvalue (.inl rfl) (Nat.zero_le _)
    | noticed => exact .finished (if_pos hvalue)
    | abandoned => exact .finished rfl
    | stopped => exact .finished rfl
    | begun hp hunset => exact absurd (hunset.symm.trans hvalue) Bool.false_ne_true
    | passed hp hunset => exact absurd (hunset.symm.trans hvalue) Bool.false_ne_true
    | continued hp =>
      rw [hp] at hlimit hseen
      exact .told hvalue (.inr (hseen.resolve_left nofun)) hlimit
    | ended hp =>
      rw [hp] at hseen
      exact .told hvalue (.inr (hseen.resolve_left nofun)) (Nat.zero_le _)
  | deserted hdropped hnews hbusy hlimit =>
    cases hf with
    | same => exact .deserted hdropped hnews hbusy hlimit
    | rested hp hends =>
      rw [hp] at hbusy
      exact absurd hends (not_le.mpr hbusy)
    | noticed hp hends hset => exact absurd (hnews.symm.trans hset) Bool.false_ne_true
    | abandoned => exact .finished rfl
    | stopped => exact .finished rfl
    | begun hp => exact absurd hbusy (by rw [hp]; exact id)
    | passed hp => exact absurd hbusy (by rw [hp]; exact id)
    | continued hp =>
      rw [hp] at hlimit
      exact .deserted hdropped hnews trivial hlimit
    | @ended _ _ _ _ outcome =>
      exact .deserted hdropped hnews (Nat.lt_add_of_pos_right (hpauses outcome)) (Nat.zero_le _)

theorem Ceases.begun_eq_nil (hc : Ceases limit now p.signal p.phase)
    (h : (p.wake session now).Proceeds atOnce now l (.done q) now) :
    Moment.begun ⟨p, now, .woken l⟩ = [] := by
  by_cases hp : p.phase = .ready
  · rw [hp] at hc
    have hvalue : p.signal.value = true := by
      cases hc with
      | finished h => exact nomatch h
      | told hvalue => exact hvalue
      | deserted _ _ hbusy => exact hbusy.elim
    rw [wake, hp] at h
    simp only [hvalue, if_true] at h
    obtain ⟨rfl, -, -⟩ := Plan.proceeds_done_iff.mp h
    exact Moment.begun_of_nil rfl
  · exact Moment.begun_of_ne hp _

theorem Ceases.later (hnow : clock.IsClosed now) (htarget : now ≤ target)
    (hs : Moment.IsPunctual clock ⟨p, now, .passed target⟩)
    (hc : Ceases limit now p.signal p.phase) : Ceases limit target p.signal p.phase ∧
      (p.phase = .finished ∨ target ≤ max now (clock limit)) := by
  have hstands : p.due = some 0 → target ≤ max now (clock limit) := fun hdue =>
    (hs.eq_now hnow htarget hdue).le.trans (le_max_left _ _)
  have hworking : ∀ {guard rest resume deadline}, p.phase = .working guard rest resume deadline →
      deadline ≤ limit → target ≤ max now (clock limit) := fun {_ _ resume deadline} h hlimit =>
    (((hs target rfl).2 (min resume deadline) (by rw [due, h])).trans
      (clock.monotone ((min_le_right _ _).trans hlimit))).trans (le_max_right _ _)
  cases hc with
  | finished h => exact ⟨.finished h, .inl h⟩
  | told hvalue hseen hlimit =>
    refine ⟨.told hvalue hseen hlimit, ?_⟩
    cases hphase : p.phase with
    | finished => exact .inl rfl
    | ready => exact .inr (hstands (by rw [due, hphase]))
    | working guard rest resume deadline =>
      rw [hphase] at hlimit
      exact .inr (hworking hphase hlimit)
    | pausing outcome ends =>
      rw [hphase] at hseen
      exact .inr (hstands (due_of_isNews hphase (hseen.resolve_left (by simp))))
  | deserted hdropped hnews hbusy hlimit =>
    cases hphase : p.phase with
    | finished => exact ⟨.finished rfl, .inl rfl⟩
    | ready =>
      rw [hphase] at hbusy
      exact hbusy.elim
    | working guard rest resume deadline =>
      rw [hphase] at hlimit
      exact ⟨.deserted hdropped hnews trivial hlimit, .inr (hworking hphase hlimit)⟩
    | pausing outcome ends =>
      obtain rfl := hs.eq_now hnow htarget (due_of_isDropped hphase hdropped)
      rw [hphase] at hbusy hlimit
      exact ⟨.deserted hdropped hnews hbusy hlimit, .inr (le_max_left _ _)⟩

theorem Moment.length_begun_le (s : Moment) : s.begun.length ≤ 1 := by
  unfold Moment.begun
  split <;> simp

/-- Each pass that is begun is one that was to spare. -/
theorem Follows.spare_le (hf : Follows now p q)
    (hpauses : ∀ outcome : Outcome, 0 < outcome.pause p.settings) (hdue : p.due = some d)
    (hd : d ≤ now) : (Moment.begun ⟨p, now, .woken l⟩).length +
      q.phase.spare now q.signal.isNews.toNat ≤ p.phase.spare now p.signal.isNews.toNat := by
  have hone := Moment.length_begun_le ⟨p, now, .woken l⟩
  have hnone : p.phase ≠ .ready → (Moment.begun ⟨p, now, .woken l⟩).length = 0 := fun h => by
    rw [Moment.begun_of_ne h, List.length_nil]
  have hpause : ∀ {outcome : Outcome} {news : ℕ},
      Phase.spare now news (.pausing outcome (now + outcome.pause p.settings)) = news :=
    fun {outcome _} => Phase.spare_of_isBusy (Nat.lt_add_of_pos_right (hpauses outcome))
  cases hf with
  | same hlater => exact absurd hd (not_le.mpr (hlater d hdue))
  | rested hp hends =>
    rw [hnone (by simp [hp]), hp, Phase.spare, if_pos hends]
    exact (Nat.zero_add _).le
  | noticed hp hends hnews =>
    rw [hnone (by simp [hp]), hp, hnews]
    simp only [Signal.look, Phase.spare]
    split_ifs <;> simp
  | abandoned hp =>
    rw [hnone (by simp [hp])]
    exact Nat.zero_le _
  | stopped hp =>
    rw [hp]
    exact hone.trans (Nat.le_add_left 1 _)
  | begun hp =>
    rw [hp]
    simp only [withPhase, Phase.spare]
    omega
  | passed hp =>
    rw [hp]
    simp only [withPhase, hpause]
    simp only [Phase.spare]
    omega
  | continued hp =>
    rw [hnone (by simp [hp]), hp]
    exact (Nat.zero_add _).le
  | ended hp =>
    rw [hnone (by simp [hp]), hp]
    simp only [withPhase, hpause]
    exact (Nat.zero_add _).le

end Turn

section Run

variable {clock : Clock} {limit t u : ℕ} {p q : Processor} {h : List Moment}

theorem Run.ceases (r : Run p t h q u) (ht : clock.IsClosed t)
    (hpunctual : ∀ s ∈ h, s.IsPunctual clock)
    (hpauses : ∀ outcome : Outcome, 0 < outcome.pause p.settings)
    (hkept : ∀ s ∈ h, s.incident ≠ .sent false) (hc : Ceases limit t p.signal p.phase) :
    begun h = [] ∧ Ceases limit u q.signal q.phase ∧
      (q.phase = .finished ∨ u ≤ max t (clock limit)) := by
  induction r with
  | start => exact ⟨rfl, hc, .inr (le_max_left _ _)⟩
  | wake r hdue hd hgo random ih =>
    rw [List.forall_mem_cons] at hpunctual hkept
    obtain ⟨hbegun, hceases, hdone⟩ := ih hpunctual.2 hkept.2
    have hf := follows_of_proceeds hgo
    refine ⟨?_, hf.ceases (by rwa [r.settings_eq.1]) hceases, hdone.imp_left fun h => ?_⟩
    · rw [begun_cons, hbegun, hceases.begun_eq_nil hgo, List.nil_append]
    · exact hf.finished h
  | pass r htarget ih =>
    rw [List.forall_mem_cons] at hpunctual hkept
    obtain ⟨hbegun, hceases, hdone⟩ := ih hpunctual.2 hkept.2
    obtain ⟨hlater, hbound⟩ := hceases.later (r.isClosed ht hpunctual.2) htarget hpunctual.1
    refine ⟨?_, hlater, ?_⟩
    · rw [begun_cons_of_nil rfl, hbegun]
    · rcases hdone with hfinished | hdone
      · exact .inl hfinished
      · exact hbound.imp_right fun h => h.trans (max_le hdone (le_max_right _ _))
  | send r hheld value ih =>
    rw [List.forall_mem_cons] at hpunctual hkept
    obtain ⟨hbegun, hceases, hdone⟩ := ih hpunctual.2 hkept.2
    refine ⟨?_, ?_, hdone⟩
    · rw [begun_cons_of_nil rfl, hbegun]
    · have hvalue : value = true := by
        by_contra hfalse
        exact hkept.1 (by rw [Bool.eq_false_of_not_eq_true hfalse])
      cases hceases with
      | finished h => exact .finished h
      | told _ hseen hlimit => exact .told hvalue (.inr rfl) hlimit
      | deserted hdropped => exact absurd (hheld.symm.trans hdropped) Bool.false_ne_true
  | drop r ih =>
    rw [List.forall_mem_cons] at hpunctual hkept
    obtain ⟨hbegun, hceases, hdone⟩ := ih hpunctual.2 hkept.2
    refine ⟨?_, ?_, hdone⟩
    · rw [begun_cons_of_nil rfl, hbegun]
    · cases hceases with
      | finished h => exact .finished h
      | told hvalue hseen hlimit => exact .told hvalue hseen hlimit
      | deserted _ hnews hbusy hlimit => exact .deserted rfl hnews hbusy hlimit

theorem Run.isDropped (r : Run p t h q u) (hp : p.signal.isDropped = true) :
    q.signal.isDropped = true := by
  induction r with
  | start => exact hp
  | wake _ _ _ hgo _ ih =>
    have hf := follows_of_proceeds hgo
    cases hf <;> exact ih
  | pass _ _ ih => exact ih
  | send _ _ _ ih => exact ih
  | drop => rfl

theorem Run.not_sent (r : Run p t h q u) (hp : p.signal.isDropped = true) {value : Bool} :
    ∀ s ∈ h, s.incident ≠ .sent value := by
  induction r with
  | start => exact nofun
  | send r hheld value ih =>
    exact absurd (hheld.symm.trans (r.isDropped hp)) Bool.false_ne_true
  | wake _ _ _ _ _ ih => exact List.forall_mem_cons.mpr ⟨nofun, ih⟩
  | pass _ _ ih => exact List.forall_mem_cons.mpr ⟨nofun, ih⟩
  | drop _ ih => exact List.forall_mem_cons.mpr ⟨nofun, ih⟩

/-- A processor whose owner is gone begins no more passes than it has to spare. -/
theorem Run.length_begun_le (r : Run p t h q u) (ht : clock.IsClosed t)
    (hpunctual : ∀ s ∈ h, s.IsPunctual clock)
    (hpauses : ∀ outcome : Outcome, 0 < outcome.pause p.settings)
    (hdropped : p.signal.isDropped = true) :
    (begun h).length + q.phase.spare u q.signal.isNews.toNat ≤
      p.phase.spare t p.signal.isNews.toNat := by
  induction r with
  | start => exact (Nat.zero_add _).le
  | @wake h q u d session l q' r hdue hd hgo random ih =>
    rw [List.forall_mem_cons] at hpunctual
    have hturn := (follows_of_proceeds hgo).spare_le (l := l) (by rwa [r.settings_eq.1]) hdue hd
    have hbefore := ih hpunctual.2
    rw [begun_cons, List.length_append]
    simp only at hturn ⊢
    omega
  | @pass h q u r target htarget ih =>
    rw [List.forall_mem_cons] at hpunctual
    have hbefore := ih hpunctual.2
    have hnow := r.isClosed ht hpunctual.2
    rw [begun_cons_of_nil rfl]
    cases hphase : q.phase with
    | pausing outcome ends =>
      -- it notices that the owner is gone before the clock goes on
      have hstands := hpunctual.1.eq_now hnow htarget
        (due_of_isDropped hphase (r.isDropped hdropped))
      rw [hphase] at hbefore
      rwa [hstands]
    | _ =>
      rw [hphase] at hbefore
      exact hbefore
  | send r hheld value ih =>
    exact absurd (hheld.symm.trans (r.isDropped hdropped)) Bool.false_ne_true
  | drop r ih =>
    rw [List.forall_mem_cons] at hpunctual
    rw [begun_cons_of_nil rfl]
    exact ih hpunctual.2

theorem Run.told (r : Run p t h q u) (hp : p.phase = .ready) (hvalue : q.signal.value = true) :
    q.phase = .ready ∨ q.signal.isNews = true ∨ q.phase = .finished := by
  induction r with
  | start => exact .inl hp
  | wake _ _ _ hgo _ ih =>
    have hf := follows_of_proceeds hgo
    cases hf with
    | same => exact ih hvalue
    | rested => exact .inl rfl
    | noticed => exact .inr (.inr (if_pos hvalue))
    | abandoned => exact .inr (.inr rfl)
    | stopped => exact .inr (.inr rfl)
    | begun _ hunset => exact absurd (hunset.symm.trans hvalue) Bool.false_ne_true
    | passed _ hunset => exact absurd (hunset.symm.trans hvalue) Bool.false_ne_true
    | continued hphase =>
      have hnews := ih hvalue
      simp only [hphase, reduceCtorEq, false_or, or_false] at hnews
      exact .inr (.inl hnews)
    | ended hphase =>
      have hnews := ih hvalue
      simp only [hphase, reduceCtorEq, false_or, or_false] at hnews
      exact .inr (.inl hnews)
  | pass _ _ ih => exact ih hvalue
  | send => exact .inr (.inl rfl)
  | drop _ ih => exact ih hvalue

/-- A run is one pass after another, and never over in the middle of one. Once the processor has
been told to stop for good, it begins no pass. Once its owner has gone away in a pass or in a pause,
it begins none either, but for one if there is something that it has not looked at. -/
theorem Run.acquires_paired (r : Run p t h q u) (ht : clock.IsClosed t) (hp : p.phase = .ready)
    (hpunctual : ∀ s ∈ h, s.IsPunctual clock) (hbackoff : 0 < p.settings.retryBackoff)
    (hinterval : 0 < p.settings.runInterval) :
    (∃ passes opened,
      Consists clock p.settings p.job (exchanges h) (begun h) q.phase u passes opened ∧
        (q.phase = .finished → opened = none)) ∧
    ∀ h' q' u', Run q u h' q' u' → (∀ s ∈ h', s.IsPunctual clock) →
      (q.signal.value = true → (∀ s ∈ h', s.incident ≠ .sent false) →
        begun h' = [] ∧ (q'.phase = .finished ∨ u' ≤ max u (clock q.phase.limit))) ∧
      (q.signal.isDropped = true → q.phase.IsBusy u →
        (begun h').length ≤ q.signal.isNews.toNat ∧
          (q.signal.isNews = false →
            q'.phase = .finished ∨ u' ≤ max u (clock q.phase.limit))) := by
  obtain ⟨passes, opened, hc⟩ := r.exists_consists ht hp hpunctual
  have hopened : q.phase = .finished → opened = none := fun h =>
    hc.opened_eq_none (by simp [h])
  have hu := r.isClosed ht hpunctual
  have hpauses : ∀ outcome : Outcome, 0 < outcome.pause q.settings := by
    rw [r.settings_eq.1]
    exact pause_pos hbackoff hinterval
  refine ⟨⟨passes, opened, hc, hopened⟩, fun h' q' u' r' hpunctual' => ⟨?_, ?_⟩⟩
  · intro hvalue hkept
    have hceases : Ceases q.phase.limit u q.signal q.phase := by
      rcases r.told hp hvalue with hready | hnews | hfinished
      · exact .told hvalue (.inl hready) le_rfl
      · exact .told hvalue (.inr hnews) le_rfl
      · exact .finished hfinished
    obtain ⟨hbegun, -, hdone⟩ := r'.ceases hu hpunctual' hpauses hkept hceases
    exact ⟨hbegun, hdone⟩
  · intro hdropped hbusy
    have hspare := r'.length_begun_le hu hpunctual' hpauses hdropped
    rw [Phase.spare_of_isBusy hbusy] at hspare
    refine ⟨(Nat.le_add_right _ _).trans hspare, fun hnews => ?_⟩
    have hkept : ∀ s ∈ h', s.incident ≠ .sent false := r'.not_sent hdropped
    exact (r'.ceases hu hpunctual' hpauses hkept (.deserted hdropped hnews hbusy le_rfl)).2.2

end Run

def steady : Processor where
  settings := .standard
  job := .timed "steady" (Duration.ofMillis 1000) (.ok ())
  random := .ofSeed 0
  signal := {}

def steadyGuard : LockGuard := ⟨Settings.standard.lockKey, ⟨"session"⟩⟩

def restEnds : ℕ := Duration.ofMillis 1000 + Settings.standard.runInterval

def midway (signal : Signal) : Processor :=
  { steady with
    signal
    phase := .working steadyGuard (.ask (.mark "steady" .finish) fun _ => .done (.ok ()))
      (Duration.ofMillis 1000) Settings.standard.workTimeout }

def resting (signal : Signal) : Processor :=
  { steady with signal, phase := .pausing .completed restEnds }

theorem isPunctual_midway (signal : Signal) (t : ℕ) {n : ℕ} (hn : n ≤ 1000) :
    Moment.IsPunctual .milli ⟨midway signal, t, .passed (Duration.ofMillis n)⟩ := by
  rintro _ ⟨⟩
  refine ⟨Clock.isClosed_milli n, ?_⟩
  rintro _ ⟨⟩
  refine le_trans ?_ (Clock.milli.le_closure _)
  change n * 1000000 ≤ min (1 * 1000000000) (300 * 1000000000)
  omega

theorem exists_run_midway : ∃ h, Run steady 0 h (midway {}) (Duration.ofMillis 500) ∧
    (∀ s ∈ h, s.IsPunctual .milli) ∧ ∀ s ∈ h, ∀ value, s.incident ≠ .sent value := by
  have hgo : (steady.wake steadyGuard.session 0).Proceeds atOnce 0
      [asking 0 steadyGuard.key steadyGuard.session (.ok true), ⟨0, .mark "steady" .start, ()⟩]
      (.done (midway {})) 0 := .ask _ (.ask _ (.stay _ _))
  refine ⟨_, .pass (.wake .start rfl le_rfl hgo steady.random) (Nat.zero_le _), ?_, ?_⟩
  · exact List.forall_mem_cons.mpr ⟨isPunctual_midway {} 0 (by decide),
      List.forall_mem_singleton.mpr Moment.isPunctual_woken⟩
  · simp

theorem exists_run_ended (signal : Signal) : ∃ s h, s.before = midway signal ∧
    Run (midway signal) (Duration.ofMillis 500) (s :: h) (resting signal)
      (Duration.ofMillis 1000) ∧
    (∀ m ∈ s :: h, m.IsPunctual .milli) ∧ ∀ m ∈ s :: h, ∀ value, m.incident ≠ .sent value := by
  have hgo : ((midway signal).wake steadyGuard.session (Duration.ofMillis 1000)).Proceeds atOnce
      (Duration.ofMillis 1000)
      [⟨Duration.ofMillis 1000, .mark "steady" .finish, ()⟩,
        releasing (Duration.ofMillis 1000) steadyGuard (.ok ())]
      (.done (resting signal)) (Duration.ofMillis 1000) := by
    rw [wake]
    simp only [midway]
    rw [if_pos le_rfl]
    exact .ask _ (.ask _ (.stay _ _))
  refine ⟨_, _, rfl, .wake (.pass .start (by decide)) rfl (by decide) hgo steady.random, ?_, ?_⟩
  · exact List.forall_mem_cons.mpr ⟨Moment.isPunctual_woken,
      List.forall_mem_singleton.mpr (isPunctual_midway signal _ le_rfl)⟩
  · simp

/-- The flag was set, but not to stop, and the next pass begins in the middle of the pause. -/
theorem exists_run_recalled (signal : Signal) (n : ℕ) (hnews : signal.isNews = true)
    (hvalue : signal.value = false) (hn : n < 11000) : ∃ h q,
      Run (resting signal) (Duration.ofMillis n) h q (Duration.ofMillis n) ∧
      (∀ s ∈ h, ∃ l, s.incident = .woken l) ∧ begun h = [Duration.ofMillis n] ∧
      q.signal = signal.look := by
  have hdue : (resting signal).due = some 0 := due_of_isNews rfl hnews
  have hends : ¬restEnds ≤ Duration.ofMillis n := by
    change ¬1000 * 1000000 + 10 * 1000000000 ≤ n * 1000000
    omega
  have hnotices : ((resting signal).wake steadyGuard.session (Duration.ofMillis n)).Proceeds atOnce
      (Duration.ofMillis n) [] (.done { steady with signal := signal.look })
      (Duration.ofMillis n) := by
    rw [wake]
    simp only [resting, hnews, hvalue, if_neg hends]
    exact .stay _ _
  have hasks : (({ steady with signal := signal.look } : Processor).wake steadyGuard.session
      (Duration.ofMillis n)).Proceeds atOnce (Duration.ofMillis n)
      [asking (Duration.ofMillis n) steadyGuard.key steadyGuard.session (.ok false)]
      (.done { steady with
        signal := signal.look
        phase := .pausing .contended (Duration.ofMillis n + Settings.standard.retryBackoff) })
      (Duration.ofMillis n) := by
    rw [wake]
    simp only [steady, Signal.look, hvalue]
    exact .ask _ (.stay _ _)
  refine ⟨_, _, .wake (.wake .start hdue (Nat.zero_le _) hnotices steady.random) rfl
    (Nat.zero_le _) hasks steady.random, ?_, ?_, rfl⟩
  · simp
  · rw [begun_cons, Moment.begun_of_ready rfl]
    rfl

theorem acquires_paired_of_steady : ∃ h h' q', Run steady 0 h (midway { isDropped := true })
      (Duration.ofMillis 500) ∧
    Run (midway { isDropped := true }) (Duration.ofMillis 500) h' q' (Duration.ofMillis 1000) ∧
    q'.phase = .finished ∧ begun h' = [] := by
  obtain ⟨h, r, hpunctual, -⟩ := exists_run_midway
  obtain ⟨s, h', -, r', hpunctual', -⟩ := exists_run_ended { isDropped := true }
  have hgo : ((resting { isDropped := true }).wake steadyGuard.session
      (Duration.ofMillis 1000)).Proceeds atOnce (Duration.ofMillis 1000) []
      (.done { steady with signal := { isDropped := true }, phase := .finished })
      (Duration.ofMillis 1000) := by
    rw [wake]
    simp only [resting]
    rw [if_neg (by decide)]
    exact .stay _ _
  have r'' := r'.wake rfl (Nat.zero_le _) hgo steady.random
  have hzero : Clock.milli.IsClosed 0 := Clock.isClosed_milli 0
  have hpaired := (r.drop.acquires_paired hzero rfl
    (List.forall_mem_cons.mpr ⟨Moment.isPunctual_dropped, hpunctual⟩) (by decide)
    (by decide)).2 _ _ _ r'' (List.forall_mem_cons.mpr ⟨Moment.isPunctual_woken, hpunctual'⟩)
  exact ⟨_, _, _, r.drop, r'', rfl, List.length_eq_zero_iff.mp
    (Nat.le_zero.mp (hpaired.2 rfl trivial).1)⟩

/-- The owner goes away in a pass, after it has set the flag to what it was, and another pass begins
when that pass is over. -/
theorem exists_begun_after_drop : ∃ (p q q' : Processor) (t u : ℕ) (h h' : List Moment),
    p.phase = .ready ∧ 0 < p.settings.retryBackoff ∧ 0 < p.settings.runInterval ∧
      Run p 0 h q t ∧ (∀ s ∈ h, s.IsPunctual .milli) ∧
      q.signal.isDropped = true ∧ q.phase.IsBusy t ∧
      Run q t h' q' u ∧ (∀ s ∈ h', s.IsPunctual .milli) ∧ begun h' ≠ [] := by
  obtain ⟨h, r, hpunctual, -⟩ := exists_run_midway
  obtain ⟨s, h', -, r', hpunctual', -⟩ :=
    exists_run_ended { isNews := true, isDropped := true }
  obtain ⟨h'', q', r'', hwoken, hbegun, -⟩ := exists_run_recalled
    { isNews := true, isDropped := true } 1000 rfl rfl (by decide)
  refine ⟨_, _, q', _, _, _, _, rfl, by decide, by decide, (r.send rfl false).drop, ?_, rfl, trivial,
    r'.trans r'', ?_, ?_⟩
  · exact List.forall_mem_cons.mpr ⟨Moment.isPunctual_dropped,
      List.forall_mem_cons.mpr ⟨Moment.isPunctual_sent, hpunctual⟩⟩
  · refine List.forall_mem_append.mpr ⟨fun m hm target htarget => ?_, hpunctual'⟩
    obtain ⟨l, hl⟩ := hwoken m hm
    cases hl.symm.trans htarget
  · rw [begun_append, hbegun]
    exact List.append_ne_nil_of_right_ne_nil _ (List.cons_ne_nil _ _)

end Rollcall.Processor
