import Rollcall.Proofs.Fleet.Keeps

/-!
# A processor's turn

When it is a processor's turn it goes on with its job, or begins or ends a pass. While it is in the
middle of a job its session holds the key. Of what other sessions hold a turn changes nothing: all
it may release are keys of its own session.
-/

namespace Rollcall

/-- The work destroys no session and releases no key. -/
def Work.KeepsOffLocks {α : Type} (p : Plan Work α) : Prop :=
  p.Meets (Step.Within ∅ ∅) fun _ => True

namespace Processor

/-- The processor is between the start of its job and the job's end. -/
def isAtWork (p : Processor) : Bool :=
  match p.phase with
  | .working .. => true
  | _ => false

theorem phase_of_isFinished {p : Processor} (hp : p.isFinished = true) : p.phase = .finished := by
  unfold isFinished at hp
  split at hp
  · next hphase => exact hphase
  · cases hp

/-- The processor is not at work, and its latest pass, if it has made one, did not come to the
job. -/
def Phase.IsIdle : Phase → Prop
  | .ready | .finished => True
  | .pausing outcome _ => outcome = .contended ∨ outcome = .lockError
  | .working .. => False

/-- If a processor with the given session is in the middle of a job, the session holds the key. -/
def Phase.Guards (key : String) (session : SessionId) (b : Faulty Cluster) : Phase → Prop
  | .working guard rest _ _ =>
    guard = ⟨key, session⟩ ∧ Work.KeepsOffLocks rest ∧ b.Holds key session
  | _ => True

structure Turn (session : SessionId) (f g : Fleet (Faulty Cluster)) (p q : Processor) : Prop where
  settings_eq : q.settings = p.settings
  job_eq : q.job = p.job
  isFinished : p.isFinished = true → q.isFinished = true
  guards : q.phase.Guards p.settings.lockKey session g.backend
  /-- Only a processor that was not finished may have released anything. -/
  keeps : f.Keeps ∅ {id | id = session ∧ p.isFinished = false} g

variable {f g : Fleet (Faulty Cluster)} {p : Processor} {session : SessionId} {ttl : Nat}

theorem turn_of_going (hp : p.isFinished = false) {q : Processor}
    (hsettings : q.settings = p.settings) (hjob : q.job = p.job)
    (hphase : q.phase.Guards p.settings.lockKey session g.backend)
    (hk : f.Keeps ∅ {session} g) : Turn session f g p q where
  settings_eq := hsettings
  job_eq := hjob
  isFinished := by
    intro h
    rw [hp] at h
    cases h
  guards := hphase
  keeps := hk.mono subset_rfl fun _ hid => ⟨hid, hp⟩

theorem endPass_meets (settings : Settings) (guard : LockGuard) (outcome : Outcome) (now : Nat) :
    (endPass settings guard outcome now).Meets (Work.Step.Within ∅ {guard.session})
      fun phase => ∃ t, phase = .pausing outcome t :=
  ⟨rfl, fun _ => ⟨_, rfl⟩⟩

theorem guards_of_pausing {key : String} {b : Faulty Cluster} {phase : Phase} {outcome : Outcome}
    (h : ∃ t, phase = .pausing outcome t) : phase.Guards key session b := by
  obtain ⟨t, rfl⟩ := h
  trivial

theorem carryOut_endPass (hs : f.backend.Sound) (settings : Settings) (guard : LockGuard)
    (outcome : Outcome) (key : String) (random : RandomSource) :
    let r := f.carryOut (fun _ f => f) random (endPass settings guard outcome f.now)
    r.1.Guards key session r.2.1.backend ∧ f.Keeps ∅ {guard.session} r.2.1 := by
  obtain ⟨hphase, hk⟩ := Fleet.keeps_carryOut hs (endPass_meets settings guard outcome f.now) random
  exact ⟨guards_of_pausing hphase, hk⟩

theorem carryOut_burst (hs : f.backend.Sound) (settings : Settings) {key : String}
    (hl : f.backend.Lasts session ttl f.now) (hh : f.backend.Holds key session)
    {rest : Plan Work (Except Error Unit)} (hrest : Work.KeepsOffLocks rest) (deadline : Nat)
    (random : RandomSource) :
    let r := f.carryOut (fun _ f => f) random (burst settings ⟨key, session⟩ deadline f.now rest)
    r.1.Guards key session r.2.1.backend ∧ f.Keeps ∅ {session} r.2.1 := by
  obtain ⟨hstop, hk⟩ := Fleet.keeps_carryOut hs hrest.upToWait random
  have hholds := hk.backend.holds key session ttl id id hl hh
  have hwide := hk.mono subset_rfl (Set.empty_subset {session})
  unfold burst
  rw [Fleet.carryOut_bind]
  generalize f.carryOut (fun _ f => f) random rest.upToWait = r at *
  obtain ⟨stop, g, random⟩ := r
  have hend : ∀ outcome,
      let r := g.carryOut (fun _ f => f) random (endPass settings ⟨key, session⟩ outcome f.now)
      r.1.Guards key session r.2.1.backend ∧ f.Keeps ∅ {session} r.2.1 := by
    intro outcome
    rw [← hk.now_eq]
    obtain ⟨hphase, hkeeps⟩ := carryOut_endPass hk.backend.sound settings ⟨key, session⟩ outcome
      key random
    exact ⟨hphase, hwide.trans hkeeps⟩
  rcases stop with result | ⟨d, rest⟩
  · exact hend (.ofResult result)
  · simp only [afterBurst]
    split
    · exact hend .timedOut
    · exact ⟨⟨rfl, hstop, hholds⟩, hwide⟩

theorem begin_eq (settings : Settings) (job : Job) (session : SessionId) (now : Nat) :
    begin settings job session now =
      .ask (.call (.acquire settings.lockKey session)) fun (r : Except Error Bool) =>
        match r with
        | .ok true =>
          burst settings ⟨settings.lockKey, session⟩ (now + settings.workTimeout) now job.plan
        | .ok false => .done (.pausing .contended (now + settings.retryBackoff))
        | .error _ => .done (.pausing .lockError (now + settings.retryBackoff)) := by
  unfold begin
  refine congrArg (Plan.ask _) (funext fun r => ?_)
  rcases r with e | won
  · rfl
  · cases won <;> rfl

theorem carryOut_begin (hs : f.backend.Sound) (settings : Settings) {job : Job}
    (hl : f.backend.Lasts session ttl f.now) (hjob : Work.KeepsOffLocks job.plan)
    (random : RandomSource) :
    let r := f.carryOut (fun _ f => f) random (begin settings job session f.now)
    r.1.Guards settings.lockKey session r.2.1.backend ∧ f.Keeps ∅ {session} r.2.1 := by
  have hk : f.Keeps ∅ {session} (f.perform (.acquire settings.lockKey session)).2 :=
    Fleet.keeps_perform hs trivial
  have hl' := hk.backend.lasts session ttl f.now id le_rfl (Nat.le_add_right _ _) hl
  rw [begin_eq, Fleet.carryOut_call]
  rcases hr : (f.perform (.acquire settings.lockKey session)).1 with e | won
  · exact ⟨trivial, hk⟩
  · cases won with
    | false => exact ⟨trivial, hk⟩
    | true =>
      have hh := Faulty.holds_perform_acquire hr
      obtain ⟨hphase, hkeeps⟩ := carryOut_burst hk.backend.sound settings hl' hh hjob
        (f.now + settings.workTimeout) random
      exact ⟨hphase, hk.trans hkeeps⟩

/-- A pass that begins while another session holds the key does not come to the job. -/
theorem isIdle_begin (hs : f.backend.Sound) (settings : Settings) (job : Job)
    {other : SessionId} (hl : f.backend.Lasts other ttl f.now)
    (hh : f.backend.Holds settings.lockKey other) (hne : session ≠ other) (random : RandomSource) :
    (f.carryOut (fun _ f => f) random (begin settings job session f.now)).1.IsIdle := by
  have hlost := hs.perform_acquire_ne hl hh hne
  rw [begin_eq, Fleet.carryOut_call]
  rcases hr : (f.perform (.acquire settings.lockKey session)).1 with e | won
  · exact .inr rfl
  · cases won with
    | false => exact .inl rfl
    | true => exact absurd hr hlost

theorem isIdle_wake (hs : f.backend.Sound) (hready : p.phase = .ready) {other : SessionId}
    (hl : f.backend.Lasts other ttl f.now) (hh : f.backend.Holds p.settings.lockKey other)
    (hne : session ≠ other) (random : RandomSource) :
    (f.carryOut (fun _ f => f) random (p.wake session f.now)).1.phase.IsIdle := by
  simp only [wake, hready]
  split_ifs
  · trivial
  · unfold Plan.map
    rw [Fleet.carryOut_bind]
    exact isIdle_begin hs p.settings p.job hl hh hne random

/-- Every turn of a processor whose session is alive. -/
theorem turn_wake (hs : f.backend.Sound) (hl : f.backend.Lasts session ttl f.now)
    (hjob : Work.KeepsOffLocks p.job.plan)
    (hp : p.phase.Guards p.settings.lockKey session f.backend) (random : RandomSource) :
    let r := f.carryOut (fun _ f => f) random (p.wake session f.now)
    Turn session f r.2.1 p r.1 := by
  have hk : f.Keeps ∅ {session} f := .refl hs ∅ {session}
  have hstay : Turn session f f p p := ⟨rfl, rfl, id, hp, .refl hs ∅ _⟩
  unfold wake
  cases hphase : p.phase with
  | finished => exact hstay
  | ready =>
    have hgoing : p.isFinished = false := by rw [isFinished, hphase]
    simp only
    split_ifs
    · exact turn_of_going hgoing rfl rfl trivial hk
    · unfold Plan.map
      rw [Fleet.carryOut_bind]
      obtain ⟨hnext, hkeeps⟩ := carryOut_begin hs p.settings hl hjob random
      exact turn_of_going hgoing rfl rfl hnext hkeeps
  | working guard rest resume deadline =>
    have hgoing : p.isFinished = false := by rw [isFinished, hphase]
    rw [hphase] at hp
    obtain ⟨rfl, hrest, hh⟩ := hp
    simp only
    split_ifs
    · unfold Plan.map
      rw [Fleet.carryOut_bind]
      obtain ⟨hnext, hkeeps⟩ := carryOut_burst hs p.settings hl hh hrest deadline random
      exact turn_of_going hgoing rfl rfl hnext hkeeps
    · unfold Plan.map
      rw [Fleet.carryOut_bind]
      obtain ⟨hnext, hkeeps⟩ := carryOut_endPass hs p.settings ⟨p.settings.lockKey, session⟩
        .timedOut p.settings.lockKey random
      exact turn_of_going hgoing rfl rfl hnext hkeeps
    · exact hstay
  | pausing outcome t =>
    have hgoing : p.isFinished = false := by rw [isFinished, hphase]
    simp only
    split_ifs
    · exact turn_of_going hgoing rfl rfl trivial hk
    · exact turn_of_going hgoing rfl rfl trivial hk
    · exact turn_of_going hgoing rfl rfl trivial hk
    · exact turn_of_going hgoing rfl rfl trivial hk
    · exact hstay

end Processor

end Rollcall
