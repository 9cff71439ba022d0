import Rollcall.Proofs.Processor.Run

/-!
# The passes of a processor

On a clock without jumps a run of a processor is one pass after another. Each pass asks once for the
lock. Without a guard that is all. With one the job is run, to its own end or to the instant at
which its time is up, and then the guard is released, whatever comes of that. How the pass came out
is what the pause after it depends on. A processor has a guard that is not released only while it is
in the middle of a job.
-/

namespace Rollcall.Processor

open Plan (Exchange)

/-- A pass: when it began, the exchanges that it made, how it came out, and when it ended. -/
structure Pass where
  start : ℕ
  exchanges : List (Exchange Work)
  outcome : Outcome
  finish : ℕ

/-- What a pass may be. The job ends by itself if it comes to its end by the instant at which its
time is up; otherwise that instant finds it in the middle of a wait. -/
inductive IsPass (clock : Clock) (settings : Settings) (job : Job) : Pass → Prop
  | contended (t : ℕ) (session : SessionId) : IsPass clock settings job
      ⟨t, [asking t settings.lockKey session (.ok false)], .contended, t⟩
  | refused (t : ℕ) (session : SessionId) (e : Error) : IsPass clock settings job
      ⟨t, [asking t settings.lockKey session (.error e)], .lockError, t⟩
  | ended {t session l result u} (h : job.plan.Proceeds clock.wait t l (.done result) u)
      (hu : u ≤ clock (t + settings.workTimeout)) (r : Except Error Unit) :
      IsPass clock settings job
        ⟨t, asking t settings.lockKey session (.ok true) ::
          (l ++ [releasing u ⟨settings.lockKey, session⟩ r]), .ofResult result, u⟩
  | cut {t session l d next u} (h : job.plan.Proceeds clock.wait t l (.wait d next) u)
      (hu : u ≤ clock (t + settings.workTimeout))
      (hd : clock (t + settings.workTimeout) < clock.wait u d) (r : Except Error Unit) :
      IsPass clock settings job
        ⟨t, asking t settings.lockKey session (.ok true) ::
          (l ++ [releasing (clock (t + settings.workTimeout)) ⟨settings.lockKey, session⟩ r]),
          .timedOut, clock (t + settings.workTimeout)⟩

/-- What a processor has of a pass that it is in the middle of: when it began, and the exchanges
made by now. The job is in a wait, which is not over, and its time is not up. -/
inductive Leaves (clock : Clock) (settings : Settings) (job : Job) (now : ℕ) :
    Phase → Option (ℕ × List (Exchange Work)) → Prop
  | idle {phase} (hphase : ∀ guard rest resume deadline,
      phase ≠ .working guard rest resume deadline) : Leaves clock settings job now phase none
  | working {t session l d next u} (ht : t ≤ now)
      (h : job.plan.Proceeds clock.wait t l (.wait d next) u) (hu : u ≤ now)
      (hresume : now ≤ clock.wait u d) (hdeadline : now ≤ clock (t + settings.workTimeout)) :
      Leaves clock settings job now
        (.working ⟨settings.lockKey, session⟩ (next ()) (u + d) (t + settings.workTimeout))
        (some (t, asking t settings.lockKey session (.ok true) :: l))

/-- The exchanges are those of the passes, one after the other, and of one that is not over. A pause
is the one after the last of them. -/
structure Consists (clock : Clock) (settings : Settings) (job : Job) (l : List (Exchange Work))
    (starts : List ℕ) (phase : Phase) (now : ℕ) (passes : List Pass)
    (opened : Option (ℕ × List (Exchange Work))) : Prop where
  isPass : ∀ a ∈ passes, IsPass clock settings job a
  ordered : passes.Pairwise fun a b => a.finish ≤ b.start
  leaves : Leaves clock settings job now phase opened
  finish_le : ∀ a ∈ passes, a.finish ≤ opened.elim now Prod.fst
  exchanges_eq : l = passes.flatMap Pass.exchanges ++ opened.elim [] Prod.snd
  starts_eq : starts = passes.map Pass.start ++ opened.toList.map Prod.fst
  paused : ∀ outcome ends, phase = .pausing outcome ends → ∃ a, passes.getLast? = some a ∧
    a.outcome = outcome ∧ ends = a.finish + outcome.pause settings

inductive Settles (clock : Clock) (settings : Settings) (job : Job) (now t : ℕ)
    (l : List (Exchange Work)) : Phase → Prop
  | closed {outcome} (h : IsPass clock settings job ⟨t, l, outcome, now⟩) :
      Settles clock settings job now t l (.pausing outcome (now + outcome.pause settings))
  | left {phase} (h : Leaves clock settings job now phase (some (t, l))) :
      Settles clock settings job now t l phase

section Turn

variable {clock : Clock} {settings : Settings} {job : Job} {now t u : ℕ}
  {l l₀ : List (Exchange Work)} {starts : List ℕ} {phase : Phase} {session : SessionId}
  {signal : Signal} {p : Processor} {passes : List Pass}
  {opened : Option (ℕ × List (Exchange Work))}

theorem IsPass.cut_now {d : ℕ} {next : Unit → Plan Work (Except Error Unit)}
    (hnow : clock.IsClosed now) (h : job.plan.Proceeds clock.wait t l (.wait d next) u)
    (hu : u ≤ now) (hlater : now < clock.wait u d) (hdeadline : t + settings.workTimeout ≤ now)
    (htime : now ≤ clock (t + settings.workTimeout)) (r : Except Error Unit) :
    IsPass clock settings job
      ⟨t, asking t settings.lockKey session (.ok true) ::
        (l ++ [releasing now ⟨settings.lockKey, session⟩ r]), .timedOut, now⟩ := by
  have hcut : clock (t + settings.workTimeout) = now :=
    le_antisymm (Clock.le_closed hnow hdeadline) htime
  have hpass := @IsPass.cut clock settings job t session l d next u h (hu.trans htime)
    (hcut.trans_lt hlater) r
  rwa [hcut] at hpass

/-- A job that has come to `rest` by now, and has time left, goes on under its guard. -/
theorem Bursts.settles {rest : Plan Work (Except Error Unit)} (hnow : clock.IsClosed now)
    (ht : t ≤ now)
    (hplan : job.plan.Proceeds clock.wait t l₀ rest now)
    (htime : now ≤ clock (t + settings.workTimeout))
    (h : Bursts clock settings ⟨settings.lockKey, session⟩ (t + settings.workTimeout) now rest l
      phase) :
    Settles clock settings job now t (asking t settings.lockKey session (.ok true) :: (l₀ ++ l))
      phase := by
  cases h with
  | ends h r =>
    rw [← List.append_assoc]
    exact .closed (.ended (hplan.trans h) htime r)
  | @cut l d next h hd hdeadline r =>
    have hlater : now < clock.wait now d :=
      (Nat.lt_add_of_pos_right hd).trans_le (clock.le_closure (now + d))
    rw [← List.append_assoc]
    exact .closed (.cut_now hnow (hplan.trans h) le_rfl hlater hdeadline htime r)
  | @waits l d next h hd hdeadline =>
    have hlater : now ≤ clock.wait now d :=
      (Nat.le_add_right now d).trans (clock.le_closure (now + d))
    exact .left (.working ht (hplan.trans h) le_rfl hlater htime)

theorem Settles.consists (hs : Settles clock settings job now t l phase) (ht : t ≤ now)
    (hpass : ∀ a ∈ passes, IsPass clock settings job a)
    (hordered : passes.Pairwise fun a b => a.finish ≤ b.start)
    (hfinish : ∀ a ∈ passes, a.finish ≤ t) :
    ∃ passes' opened', Consists clock settings job (passes.flatMap Pass.exchanges ++ l)
      (passes.map Pass.start ++ [t]) phase now passes' opened' := by
  cases hs with
  | @closed outcome h =>
    refine ⟨passes ++ [⟨t, l, outcome, now⟩], none, ?_, ?_, .idle nofun, ?_, by simp, by simp, ?_⟩
    · intro a ha
      rcases List.mem_append.mp ha with ha | ha
      · exact hpass a ha
      · rw [List.mem_singleton.mp ha]
        exact h
    · refine List.pairwise_append.mpr ⟨hordered, List.pairwise_singleton _ _, ?_⟩
      intro a ha b hb
      rw [List.mem_singleton.mp hb]
      exact hfinish a ha
    · intro a ha
      rcases List.mem_append.mp ha with ha | ha
      · exact (hfinish a ha).trans ht
      · rw [List.mem_singleton.mp ha]
        exact le_rfl
    · rintro _ _ ⟨⟩
      exact ⟨_, List.getLast?_concat, rfl, rfl⟩
  | left h =>
    have hopened : ∀ outcome ends, phase ≠ .pausing outcome ends := by
      cases h with
      | working => exact nofun
    exact ⟨passes, some (t, l), hpass, hordered, h, hfinish, rfl, rfl,
      fun outcome ends h => absurd h (hopened outcome ends)⟩

theorem Consists.rest (hc : Consists clock settings job l starts phase now passes opened)
    (hbefore : ∀ guard rest resume deadline, phase ≠ .working guard rest resume deadline)
    {phase' : Phase} (hafter : phase' = .ready ∨ phase' = .finished) :
    Consists clock settings job l starts phase' now passes opened := by
  refine { hc with leaves := ?_, paused := ?_ }
  · cases hc.leaves with
    | idle => exact .idle (by rcases hafter with rfl | rfl <;> exact nofun)
    | working => exact absurd rfl (hbefore _ _ _ _)
  · rcases hafter with rfl | rfl <;> exact nofun

theorem Consists.opened_eq_none (hc : Consists clock settings job l starts phase now passes opened)
    (hphase : ∀ guard rest resume deadline, phase ≠ .working guard rest resume deadline) :
    opened = none := by
  cases hc.leaves with
  | idle => rfl
  | working => exact absurd rfl (hphase _ _ _ _)

theorem Leaves.of_working {guard : LockGuard} {rest : Plan Work (Except Error Unit)}
    {resume deadline : ℕ}
    (h : Leaves clock settings job now (.working guard rest resume deadline) opened) :
    ∃ t session l d next u, guard = ⟨settings.lockKey, session⟩ ∧ rest = next () ∧
      resume = u + d ∧ deadline = t + settings.workTimeout ∧
      opened = some (t, asking t settings.lockKey session (.ok true) :: l) ∧ t ≤ now ∧
      job.plan.Proceeds clock.wait t l (.wait d next) u ∧ u ≤ now ∧ now ≤ clock.wait u d ∧
      now ≤ clock deadline := by
  cases h with
  | idle hphase => exact absurd rfl (hphase _ _ _ _)
  | working ht h hu hresume hdeadline =>
    exact ⟨_, _, _, _, _, _, rfl, rfl, rfl, rfl, rfl, ht, h, hu, hresume, hdeadline⟩

theorem Moment.begun_of_ready {x : Exchange Work} (hp : p.phase = .ready) :
    Moment.begun ⟨p, now, .woken (x :: l)⟩ = [now] := by
  unfold Moment.begun
  rw [hp]
  rfl

theorem Moment.begun_of_ne (hp : p.phase ≠ .ready) (incident : Incident) :
    Moment.begun ⟨p, now, incident⟩ = [] := by
  unfold Moment.begun
  split
  · next hready _ => exact absurd hready hp
  · rfl

theorem Moment.begun_of_nil {s : Moment} (hs : s.exchanges = []) : s.begun = [] := by
  unfold Moment.begun
  split
  · next hcons => cases hs.symm.trans hcons
  · rfl

theorem begun_cons_of_nil {s : Moment} (hs : s.exchanges = []) (h : List Moment) :
    begun (s :: h) = begun h := by
  rw [begun_cons, Moment.begun_of_nil hs, List.append_nil]

theorem exchanges_cons_of_nil {s : Moment} (hs : s.exchanges = []) (h : List Moment) :
    exchanges (s :: h) = exchanges h := by
  rw [exchanges_cons, hs, List.append_nil]

theorem Consists.begin {x : Exchange Work}
    (hc : Consists clock p.settings p.job l₀ starts p.phase now passes opened)
    (hp : p.phase = .ready) (hs : Settles clock p.settings p.job now now (x :: l) phase) :
    ∃ passes' opened', Consists clock p.settings p.job (l₀ ++ x :: l)
      (starts ++ Moment.begun ⟨p, now, .woken (x :: l)⟩) phase now passes' opened' := by
  obtain rfl := hc.opened_eq_none (by simp [hp])
  have hexchanges := hc.exchanges_eq
  have hstarts := hc.starts_eq
  simp only [Option.elim_none, List.append_nil, Option.toList_none, List.map_nil]
    at hexchanges hstarts
  rw [hexchanges, hstarts, Moment.begun_of_ready hp]
  exact hs.consists le_rfl hc.isPass hc.ordered hc.finish_le

theorem Consists.resume {x : List (Exchange Work)}
    (hc : Consists clock p.settings p.job l₀ starts p.phase now passes (some (t, x)))
    (hp : p.phase ≠ .ready) (ht : t ≤ now)
    (hs : Settles clock p.settings p.job now t (x ++ l) phase) :
    ∃ passes' opened', Consists clock p.settings p.job (l₀ ++ l)
      (starts ++ Moment.begun ⟨p, now, .woken l⟩) phase now passes' opened' := by
  rw [hc.exchanges_eq, hc.starts_eq, Moment.begun_of_ne hp, List.append_nil, List.append_assoc]
  exact hs.consists ht hc.isPass hc.ordered hc.finish_le

theorem Turns.consists (hnow : clock.IsClosed now) (h : Turns clock p now l signal phase)
    (hc : Consists clock p.settings p.job l₀ starts p.phase now passes opened) :
    ∃ passes' opened', Consists clock p.settings p.job (l₀ ++ l)
      (starts ++ Moment.begun ⟨p, now, .woken l⟩) phase now passes' opened' := by
  cases h with
  | rested hp hends =>
    rw [Moment.begun_of_nil rfl, List.append_nil, List.append_nil]
    exact ⟨_, _, hc.rest (by simp [hp]) (.inl rfl)⟩
  | noticed hp hends hnews =>
    rw [Moment.begun_of_nil rfl, List.append_nil, List.append_nil]
    exact ⟨_, _, hc.rest (by simp [hp]) (by split_ifs <;> simp)⟩
  | abandoned hp hends hnews hdropped =>
    rw [Moment.begun_of_nil rfl, List.append_nil, List.append_nil]
    exact ⟨_, _, hc.rest (by simp [hp]) (.inr rfl)⟩
  | stopped hp hvalue =>
    rw [Moment.begun_of_nil rfl, List.append_nil, List.append_nil]
    exact ⟨_, _, hc.rest (by simp [hp]) (.inr rfl)⟩
  | contended hp hvalue session => exact hc.begin hp (.closed (.contended now session))
  | refused hp hvalue session e => exact hc.begin hp (.closed (.refused now session e))
  | acquired hp hvalue hburst =>
    have htime : now ≤ clock (now + p.settings.workTimeout) :=
      (Nat.le_add_right _ _).trans (clock.le_closure _)
    exact hc.begin hp (hburst.settles hnow le_rfl (.stay _ _) htime)
  | resumed hp hresume hburst =>
    have hleaves := hc.leaves
    rw [hp] at hleaves
    obtain ⟨t, session, x, d, next, u, rfl, rfl, rfl, rfl, rfl, ht, hplan, -, hlater, hdeadline⟩ :=
      hleaves.of_working
    -- the wait is over, and the clock has not gone beyond its end
    have hover : clock.wait u d = now := le_antisymm (Clock.le_closed hnow hresume) hlater
    have hnext : p.job.plan.Proceeds clock.wait t x (next ()) now := by
      have hwait := hplan.trans (.wait (.stay (next ()) _))
      rwa [List.append_nil, hover] at hwait
    exact hc.resume (by simp [hp]) ht (hburst.settles hnow ht hnext hdeadline)
  | expired hp hresume hdeadline r =>
    have hleaves := hc.leaves
    rw [hp] at hleaves
    obtain ⟨t, session, x, d, next, u, rfl, rfl, rfl, rfl, rfl, ht, hplan, hu, -, htime⟩ :=
      hleaves.of_working
    have hlater : now < clock.wait u d := hresume.trans_le (clock.le_closure (u + d))
    exact hc.resume (by simp [hp]) ht (.closed (.cut_now hnow hplan hu hlater hdeadline htime r))

end Turn

section Run

variable {clock : Clock} {settings : Settings} {job : Job} {now t u target : ℕ}
  {l : List (Exchange Work)} {starts : List ℕ} {p q : Processor} {passes : List Pass}
  {opened : Option (ℕ × List (Exchange Work))} {h : List Moment}

theorem Consists.later (hc : Consists clock settings job l starts p.phase now passes opened)
    (htarget : now ≤ target) (hdue : ∀ d, p.due = some d → target ≤ clock d) :
    Consists clock settings job l starts p.phase target passes opened := by
  generalize hphase : p.phase = phase at hc ⊢
  obtain ⟨hpass, hordered, hleaves, hfinish, hexchanges, hstarts, hpaused⟩ := hc
  cases hleaves with
  | idle hidle =>
    exact ⟨hpass, hordered, .idle hidle, fun a ha => (hfinish a ha).trans htarget, hexchanges,
      hstarts, hpaused⟩
  | @working t session x d next u ht h hu hresume hdeadline =>
    have hmin := hdue (min (u + d) (t + settings.workTimeout)) (by rw [due, hphase])
    exact ⟨hpass, hordered, .working (ht.trans htarget) h (hu.trans htarget)
      (hmin.trans (clock.monotone (min_le_left _ _)))
      (hmin.trans (clock.monotone (min_le_right _ _))), hfinish, hexchanges, hstarts,
      hpaused⟩

/-- A run on a clock without jumps is one pass after another. -/
theorem Run.exists_consists (r : Run p t h q u) (ht : clock.IsClosed t) (hp : p.phase = .ready)
    (hpunctual : ∀ s ∈ h, s.IsPunctual clock) :
    ∃ passes opened,
      Consists clock p.settings p.job (exchanges h) (begun h) q.phase u passes opened := by
  induction r with
  | start =>
    exact ⟨[], none, nofun, .nil, .idle (by simp [hp]), nofun, rfl, rfl, by simp [hp]⟩
  | @wake h q u d session l q' r hdue hd hgo random ih =>
    rw [List.forall_mem_cons] at hpunctual
    have hnow := r.isClosed ht hpunctual.2
    obtain ⟨passes, opened, hc⟩ := ih hpunctual.2
    obtain ⟨signal, phase, hturns, rfl⟩ := exists_turns hnow hdue hd hgo
    obtain ⟨hsettings, hjob⟩ := r.settings_eq
    rw [← hsettings, ← hjob] at hc ⊢
    rw [exchanges_cons, begun_cons]
    exact hturns.consists hnow hc
  | pass r htarget ih =>
    rw [List.forall_mem_cons] at hpunctual
    obtain ⟨passes, opened, hc⟩ := ih hpunctual.2
    rw [exchanges_cons_of_nil rfl, begun_cons_of_nil rfl]
    exact ⟨passes, opened, hc.later htarget (hpunctual.1 _ rfl).2⟩
  | send r hheld value ih =>
    rw [List.forall_mem_cons] at hpunctual
    rw [exchanges_cons_of_nil rfl, begun_cons_of_nil rfl]
    exact ih hpunctual.2
  | drop r ih =>
    rw [List.forall_mem_cons] at hpunctual
    rw [exchanges_cons_of_nil rfl, begun_cons_of_nil rfl]
    exact ih hpunctual.2

end Run

end Rollcall.Processor
