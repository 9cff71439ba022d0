import Rollcall.Proofs.Audit
import Rollcall.Proofs.Fleet.Silence

/-!
# A processor that nobody takes away

A processor whose lock provider is in somebody's hands has it for good, if neither is let go of from
outside. If its job only reads, then neither of the two ever touches a record or ends a session of
its own accord. And a pass that has come to the job is not given up: it ends when the job does, or
at the job's deadline, and the last thing it does is to release the lock.
-/

namespace Rollcall

/-- The call touches no record and ends no session. -/
def Call.IsMild : Call → Prop
  | .register .. | .deregister .. | .report .. | .destroySession _ => False
  | _ => True

def Work.Step.IsMild : Work.Step → Prop
  | .call c => c.IsMild
  | _ => True

theorem Work.Step.IsRead.isMild {step : Work.Step} (h : step.IsRead) : step.IsMild := by
  cases step with
  | call c =>
    cases c with
    | addresses service => trivial
    | _ => cases h
  | _ => trivial

open Work (OnlyReads)

namespace Processor

variable {p : Processor}

/-- What is left of a job only reads. -/
def Phase.OnlyReads : Phase → Prop
  | .working _ rest _ _ => Work.OnlyReads rest
  | _ => True

structure IsReader (p : Processor) : Prop where
  job : Work.OnlyReads p.job.plan
  phase : p.phase.OnlyReads

theorem endPass_isMild (settings : Settings) (guard : LockGuard) (outcome : Outcome) (now : Nat) :
    (endPass settings guard outcome now).Meets Work.Step.IsMild Phase.OnlyReads :=
  ⟨trivial, fun _ => trivial⟩

theorem burst_isMild {rest : Plan Work (Except Error Unit)} (hrest : Work.OnlyReads rest)
    (settings : Settings) (guard : LockGuard) (deadline now : Nat) :
    (burst settings guard deadline now rest).Meets Work.Step.IsMild Phase.OnlyReads := by
  refine (hrest.upToWait.mono (fun _ h => h.isMild) fun _ h => h).bind fun stop hstop => ?_
  rcases stop with result | ⟨d, rest'⟩
  · exact endPass_isMild _ _ _ _
  · simp only [afterBurst]
    split_ifs
    · exact endPass_isMild _ _ _ _
    · exact hstop

/-- All that a processor does besides reading is to take a lock and to release it. -/
theorem IsReader.wake (hp : p.IsReader) (session : SessionId) (now : Nat) :
    (p.wake session now).Meets Work.Step.IsMild IsReader := by
  have hphase : ∀ {plan : Plan Work Phase}, plan.Meets Work.Step.IsMild Phase.OnlyReads →
      (plan.map p.withPhase).Meets Work.Step.IsMild IsReader := fun h =>
    h.bind fun _ hphase => ⟨hp.job, hphase⟩
  have hread := hp.phase
  unfold Processor.wake
  generalize p.phase = phase at hread
  cases phase with
  | finished => exact hp
  | ready =>
    simp only
    split_ifs
    · exact ⟨hp.job, trivial⟩
    · refine hphase ?_
      rw [begin_eq]
      refine ⟨trivial, fun (r : Except Error Bool) => ?_⟩
      rcases r with e | _ | _
      · trivial
      · trivial
      · exact burst_isMild hp.job _ _ _ _
  | working guard rest resume deadline =>
    simp only
    split_ifs
    · exact hphase (burst_isMild hread _ _ _ _)
    · exact hphase (endPass_isMild _ _ _ _)
    · exact hp
  | pausing outcome t =>
    simp only
    split_ifs
    · exact ⟨hp.job, trivial⟩
    · exact ⟨hp.job, trivial⟩
    · exact ⟨hp.job, trivial⟩
    · exact ⟨hp.job, trivial⟩
    · exact hp

end Processor

namespace Fleet

variable {f g : Fleet (Faulty Cluster)} {h h' : List Scene} {s : Scene} {n worker lock ttl : Nat}
  {w : Worker} {t : Tenancy} {guard : LockGuard} {deadline : Nat}

theorem get?_sweep_of_isHandled (hu : f.locks.Unique) (ht : f.locks.get? n = some t)
    (hh : t.isHandled = true) : f.sweep.locks.get? n = some t := by
  show (f.locks.filter _).get? n = some t
  rw [hu.get?_filter, ht, Option.filter_eq_some_iff]
  exact ⟨rfl, by rw [hh, Bool.true_or]⟩

/-- The provider is there, in somebody's hands, and has the time to live. -/
def Handles (f : Fleet (Faulty Cluster)) (n ttl : Nat) : Prop :=
  n < f.admitted ∧
    ∃ t, f.locks.get? n = some t ∧ t.isHandled = true ∧ t.provider.ttl = ttl

theorem Handles.wake (hh : f.Handles n ttl) (hu : f.locks.Unique) (m : Member) :
    (f.wake m).Handles n ttl := by
  obtain ⟨hn, t, ht, hhandled, httl⟩ := hh
  refine ⟨(admitted_wake f m).symm ▸ hn, ?_⟩
  cases m with
  | heartbeat k => exact ⟨t, (locks_wake_heartbeat f k).symm ▸ ht, hhandled, httl⟩
  | lock k =>
    cases hk : f.locks.get? k with
    | none => exact ⟨t, by rw [wake_lock_of_none hk, ht], hhandled, httl⟩
    | some t₀ =>
      obtain ⟨id, l, g, -, heq⟩ := wake_lock_eq hk
      rw [heq]
      show ∃ t, (f.locks.put k _).get? n = some t ∧ _
      rw [Table.get?_put]
      split_ifs with hnk
      · subst hnk
        cases hk.symm.trans ht
        exact ⟨_, rfl, hhandled, httl⟩
      · exact ⟨t, ht, hhandled, httl⟩
  | worker k =>
    cases hk : f.workers.get? k with
    | none => exact ⟨t, by rw [wake_worker_of_none hk, ht], hhandled, httl⟩
    | some w =>
      cases hlock : f.locks.get? w.lock with
      | none => exact ⟨t, by rw [wake_worker_of_lost hk hlock, ht], hhandled, httl⟩
      | some t₀ =>
        obtain ⟨l, ha⟩ := acts_carryOut f w.processor.random
          (w.processor.wake t₀.provider.session f.now)
        rw [wake_worker_eq hk hlock]
        exact ⟨t, get?_sweep_of_isHandled (ha.locks_eq.symm ▸ hu) (ha.locks_eq.symm ▸ ht) hhandled,
          hhandled, httl⟩

/-- The move takes neither the processor nor the lock provider away. -/
def Move.Spares (worker lock : Nat) : Move → Prop
  | .dismissWorker n => n ≠ worker
  | .dropLock n | .closeLock n => n ≠ lock
  | _ => True

theorem Handles.after (hh : s.before.Handles lock ttl) (hu : s.before.locks.Unique)
    (hs : s.move.Spares worker lock) : s.after.Handles lock ttl := by
  have hle := s.admitted_le
  obtain ⟨f, m⟩ := s
  have hsame : (f.after m).locks = f.locks → (f.after m).Handles lock ttl := fun heq =>
    ⟨hh.1.trans_le hle, heq.symm ▸ hh.2⟩
  cases m with
  | wake m => exact hh.wake hu m
  | openLock ttl' =>
    obtain ⟨hn, t, ht, hhandled, httl⟩ := hh
    refine ⟨hn.trans_le hle, t, ?_, hhandled, httl⟩
    show (f.openLock ttl').2.locks.get? lock = some t
    rcases openLock_cases f ttl' with ⟨e, -, heq⟩ | ⟨id, -, heq⟩
    · rw [heq]
      exact ht
    · rw [heq]
      exact (Table.get?_put _ _ _ _).trans ((if_neg hn.ne).trans ht)
  | dropLock k =>
    obtain ⟨hn, t, ht, hhandled, httl⟩ := hh
    refine ⟨hn.trans_le hle, t, ?_, hhandled, httl⟩
    show (f.dropLock k).locks.get? lock = some t
    unfold Fleet.dropLock
    split
    · exact ht
    · exact get?_sweep_of_isHandled (hu.put _ _)
        ((Table.get?_put _ _ _ _).trans ((if_neg (Ne.symm hs)).trans ht)) hhandled
  | closeLock k =>
    obtain ⟨hn, t, ht, hhandled, httl⟩ := hh
    refine ⟨hn.trans_le hle, t, ?_, hhandled, httl⟩
    rcases locks_closeLock f k with ⟨-, heq⟩ | heq
    · exact (congrArg (·.locks.get? lock) heq).trans ht
    · exact (congrArg (·.get? lock) heq).trans
        ((Table.get?_erase _ _ _).trans ((if_neg (Ne.symm hs)).trans ht))
  | signalHeartbeat k change => exact hsame (locks_signalHeartbeat f k change)
  | signalWorker k change => exact hsame (locks_signalWorker f k change)
  | dismissWorker k =>
    obtain ⟨hn, t, ht, hhandled, httl⟩ := hh
    exact ⟨hn.trans_le hle, t,
      get?_sweep_of_isHandled (f := { f with workers := _ }) hu ht hhandled, hhandled, httl⟩
  | _ => exact hsame rfl

/-- Work that meets a specification, carried out at one instant: how it ends, and what it calls. -/
theorem exists_acts_carryOut {α : Type} {P : Work.Step → Prop} {Q : α → Prop} {p : Plan Work α}
    (hp : p.Meets P Q) (f : Fleet (Faulty Cluster)) (random : RandomSource) :
    Q (f.carryOut (fun _ f => f) random p).1 ∧
      ∃ l, Acts f l (f.carryOut (fun _ f => f) random p).2.1 ∧
        ∀ c r, .called c r ∈ l → P (.call c) := by
  induction p generalizing f random with
  | done a => exact ⟨hp, [], .refl f, nofun⟩
  | ask step next ih =>
    cases step with
    | call c =>
      obtain ⟨hq, l, ha, hl⟩ := ih _ (hp.2 (f.perform c).1) (f.perform c).2 random
      refine ⟨hq, _, (acts_perform f c).trans ha, fun c' r' hmem => ?_⟩
      rcases List.mem_append.mp hmem with hmem | hmem
      · exact hl c' r' hmem
      · cases List.mem_singleton.mp hmem
        exact hp.1
    | choose more => exact ih _ (hp.2 (random.choose more).1) f (random.choose more).2
    | mark job stage =>
      obtain ⟨hq, l, ha, hl⟩ := ih _ (hp.2 ()) (f.record (.marked job stage)) random
      refine ⟨hq, _, (acts_record f job stage).trans ha, fun c' r' hmem => ?_⟩
      rcases List.mem_append.mp hmem with hmem | hmem
      · exact hl c' r' hmem
      · cases List.mem_singleton.mp hmem
  | wait d next ih => exact ih () hp f random

theorem journal_wake_worker (hw : f.workers.get? n = some w)
    (ht : f.locks.get? w.lock = some t) :
    (f.wake (.worker n)).journal = (f.turn w t).2.1.journal := by
  rw [wake_worker_eq hw ht]
  rfl

/-- The processor is there and its job only reads; its provider is there, in somebody's hands. -/
structure Processes (f : Fleet (Faulty Cluster)) (worker lock ttl : Nat) : Prop where
  handles : f.Handles lock ttl
  admitted : worker < f.admitted
  reader : ∃ w, f.workers.get? worker = some w ∧ w.lock = lock ∧ w.processor.IsReader

theorem Processes.after (hp : s.before.Processes worker lock ttl) (hpaced : Paced s.before)
    (hs : s.move.Spares worker lock) : s.after.Processes worker lock ttl := by
  refine ⟨hp.handles.after hpaced.locks_unique hs, hp.admitted.trans_le s.admitted_le, ?_⟩
  obtain ⟨w, hw, hlock, hreader⟩ := hp.reader
  rcases s.workers_cases with heq | ⟨k, hm, heq⟩ | ⟨k, w', hworks, heq⟩
  · exact ⟨w, heq ▸ hw, hlock, hreader⟩
  · rw [hm] at hs
    refine ⟨w, ?_, hlock, hreader⟩
    rw [heq, Table.get?_erase, if_neg (Ne.symm hs), hw]
  · rw [heq, Table.get?_put]
    split_ifs with hk
    · refine ⟨w', rfl, ?_⟩
      subst hk
      cases hworks with
      | @woken hm _ t hw' ht =>
        cases hw'.symm.trans hw
        have hturn := (exists_acts_carryOut (hreader.wake t.provider.session s.before.now) s.before
          w.processor.random).1
        exact ⟨hlock, hturn.job, hturn.phase⟩
      | signalled hm hw' =>
        cases hw'.symm.trans hw
        exact ⟨hlock, hreader.job, hreader.phase⟩
      | started hm hk => exact absurd hp.admitted (hk ▸ lt_irrefl _)
    · exact ⟨w, hw, hlock, hreader⟩

theorem Processes.isMild (hp : s.before.Processes worker lock ttl) (hs : s.move.Spares worker lock)
    (ha : s.actor? = some (.worker worker) ∨ s.actor? = some (.lock lock)) {c : Call}
    {r : c.Outcome} (hx : .called c r ∈ s.happenings) : c.IsMild := by
  rcases ha with ha | ha
  · obtain ⟨w, hw, hlock, hreader⟩ := hp.reader
    obtain ⟨-, t, ht, -⟩ := hp.handles
    have hmove := Scene.move_of_actor_worker ha
    obtain ⟨-, l, hacts, hmild⟩ := exists_acts_carryOut
      (hreader.wake t.provider.session s.before.now) s.before w.processor.random
    have hj : s.after.journal = (s.before.turn w t).2.1.journal := by
      rw [Scene.after, hmove]
      exact journal_wake_worker hw (hlock ▸ ht)
    rw [Scene.happenings_of_acts hacts hj] at hx
    exact hmild c r hx
  · rcases Scene.actor_cases ha with ⟨-, heq⟩ | ⟨_, -, -, heq⟩ | ⟨-, t, id, g, -, htick⟩ | ⟨hm, -⟩
    · rw [heq] at hx
      cases hx
    · rw [heq, List.mem_singleton] at hx
      cases hx
      trivial
    · generalize s.happenings = l at hx htick
      cases htick with
      | renewed | failed =>
        cases List.mem_singleton.mp hx
        trivial
      | bereft | replaced =>
        rcases List.mem_pair.mp hx with heq | heq
        · cases heq
          trivial
        · cases heq
          trivial
    · rw [hm] at hs
      exact absurd rfl hs

theorem Course.processes {registry : Registry} (c : Course (start registry) h f)
    (hp : f.Processes worker lock ttl) (c' : Course f h' g)
    (hs : ∀ s ∈ h', s.move.Spares worker lock) : g.Processes worker lock ttl := by
  induction c' with
  | stay => exact hp
  | @go h' g c' m hm ih =>
    rw [List.forall_mem_cons] at hs
    exact Processes.after (s := ⟨g, m⟩) (ih hs.2) (c.trans c').paced hs.1

def IsAtJob (f : Fleet (Faulty Cluster)) (worker : Nat) (guard : LockGuard) (deadline : Nat) :
    Prop :=
  ∃ w rest resume, f.workers.get? worker = some w ∧
    w.processor.phase = .working guard rest resume deadline

/-- The processor goes on with its job and comes to the end of it, or the deadline has come; in
either case it releases the lock, and this is the last that it does. -/
structure Scene.EndsPass (s : Scene) (worker : Nat) (guard : LockGuard) (deadline : Nat) :
    Prop where
  move_eq : s.move = .wake (.worker worker)
  cause : ∃ w rest resume, s.before.workers.get? worker = some w ∧
    w.processor.phase = .working guard rest resume deadline ∧
      (resume ≤ s.before.now ∧ (∃ result, (s.before.carryOut (fun _ f => f) w.processor.random
        rest.upToWait).1 = .over result) ∨ deadline ≤ s.before.now)
  releases : ∃ r l, s.happenings = .called (.release guard.key guard.session) r :: l

theorem acts_endPass (f : Fleet (Faulty Cluster)) (random : RandomSource)
    (settings : Processor.Settings) (guard : LockGuard) (outcome : Processor.Outcome) (now : Nat) :
    Acts f [.called (.release guard.key guard.session)
        (f.perform (.release guard.key guard.session)).1]
      (f.carryOut (fun _ f => f) random (Processor.endPass settings guard outcome now)).2.1 :=
  acts_perform f (.release guard.key guard.session)

theorem carryOut_burst_cases (f : Fleet (Faulty Cluster)) (random : RandomSource)
    (settings : Processor.Settings) (guard : LockGuard) (deadline : Nat)
    (rest : Plan Work (Except Error Unit)) :
    (∃ rest' resume', (f.carryOut (fun _ f => f) random
      (Processor.burst settings guard deadline f.now rest)).1 =
        .working guard rest' resume' deadline) ∨
    ((∃ result, (f.carryOut (fun _ f => f) random rest.upToWait).1 = .over result) ∨
      deadline ≤ f.now) ∧
    ∃ r l, Acts f (.called (.release guard.key guard.session) r :: l) (f.carryOut (fun _ f => f)
      random (Processor.burst settings guard deadline f.now rest)).2.1 := by
  obtain ⟨l, ha⟩ := acts_carryOut f random rest.upToWait
  unfold Processor.burst
  rw [carryOut_bind]
  generalize f.carryOut (fun _ f => f) random rest.upToWait = stopped at ha
  obtain ⟨stop, g, random'⟩ := stopped
  rcases stop with result | ⟨d, rest'⟩
  · exact .inr ⟨.inl ⟨result, rfl⟩, _, l, ha.trans (acts_endPass _ _ _ _ _ _)⟩
  · simp only [Processor.afterBurst]
    split_ifs with hdeadline
    · exact .inr ⟨.inr hdeadline, _, l, ha.trans (acts_endPass _ _ _ _ _ _)⟩
    · exact .inl ⟨rest', _, rfl⟩

theorem turn_of_working {rest : Plan Work (Except Error Unit)} {resume : Nat}
    (hphase : w.processor.phase = .working guard rest resume deadline) :
    (∃ rest' resume', (f.turn w t).1.phase = .working guard rest' resume' deadline) ∨
    (resume ≤ f.now ∧ (∃ result, (f.carryOut (fun _ f => f) w.processor.random
      rest.upToWait).1 = .over result) ∨ deadline ≤ f.now) ∧
    ∃ r l, Acts f (.called (.release guard.key guard.session) r :: l) (f.turn w t).2.1 := by
  unfold turn Processor.wake
  rw [hphase]
  simp only
  split_ifs with hresume hdeadline
  · simp only [Plan.map, carryOut_bind]
    rcases carryOut_burst_cases f w.processor.random w.processor.settings guard deadline rest with
      ⟨rest', resume', h⟩ | ⟨hcause, hrelease⟩
    · exact .inl ⟨rest', resume', h⟩
    · exact .inr ⟨hcause.imp_left fun h => ⟨hresume, h⟩, hrelease⟩
  · exact .inr ⟨.inr hdeadline, _, _, acts_endPass f w.processor.random w.processor.settings guard
      .timedOut f.now⟩
  · exact .inl ⟨rest, resume, hphase⟩

theorem Scene.isAtJob_or_endsPass (hp : s.before.Processes worker lock ttl)
    (hs : s.move.Spares worker lock) (hw : s.before.IsAtJob worker guard deadline) :
    s.after.IsAtJob worker guard deadline ∨ s.EndsPass worker guard deadline := by
  obtain ⟨w, rest, resume, hw, hphase⟩ := hw
  rcases s.workers_cases with heq | ⟨k, hm, heq⟩ | ⟨k, w', hworks, heq⟩
  · exact .inl ⟨w, rest, resume, heq ▸ hw, hphase⟩
  · rw [hm] at hs
    refine .inl ⟨w, rest, resume, ?_, hphase⟩
    rw [heq, Table.get?_erase, if_neg (Ne.symm hs), hw]
  · by_cases hk : worker = k
    · subst hk
      have hget : s.after.workers.get? worker = some w' := by
        rw [heq, Table.get?_put, if_pos rfl]
      cases hworks with
      | signalled hm hw' =>
        cases hw'.symm.trans hw
        exact .inl ⟨_, rest, resume, hget, hphase⟩
      | started hm hk => exact absurd hp.admitted (hk ▸ lt_irrefl _)
      | @woken hm _ t hw' ht =>
        cases hw'.symm.trans hw
        have hj : s.after.journal = (s.before.turn w t).2.1.journal := by
          rw [Scene.after, hm]
          exact journal_wake_worker hw ht
        rcases turn_of_working (f := s.before) (t := t) hphase with ⟨rest', resume', hnext⟩ |
          ⟨hcause, r, l, ha⟩
        · exact .inl ⟨_, rest', resume', hget, hnext⟩
        · exact .inr ⟨hm, ⟨w, rest, resume, hw, hphase, hcause⟩, r, l,
            Scene.happenings_of_acts ha hj⟩
    · exact .inl ⟨w, rest, resume, by rw [heq, Table.get?_put, if_neg hk, hw], hphase⟩

/-- A job that a processor is in the middle of is not given up: the processor is still at it, or
the pass has ended. -/
theorem Course.isAtJob_or_endsPass {registry : Registry} (c : Course (start registry) h f)
    (hp : f.Processes worker lock ttl) (hw : f.IsAtJob worker guard deadline) (c' : Course f h' g)
    (hs : ∀ s ∈ h', s.move.Spares worker lock) :
    g.IsAtJob worker guard deadline ∨ ∃ s ∈ h', s.EndsPass worker guard deadline := by
  induction c' with
  | stay => exact .inl hw
  | @go h' g c' m hm ih =>
    rw [List.forall_mem_cons] at hs
    rcases ih hs.2 with hstill | ⟨s, hmem, hends⟩
    · exact (Scene.isAtJob_or_endsPass (s := ⟨g, m⟩) (c.processes hp c' hs.2) hs.1 hstill).imp_right
        fun hends => ⟨_, List.mem_cons_self, hends⟩
    · exact .inr ⟨s, List.mem_cons_of_mem _ hmem, hends⟩

end Fleet

end Rollcall
