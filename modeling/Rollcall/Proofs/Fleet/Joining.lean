import Rollcall.Proofs.Fleet.Phases
import Rollcall.Proofs.Fleet.Settling

/-!
# Waiting for a processor

A fleet that settles gives its members all the turns that they want at an instant, if no processor
goes without pauses or lacks its lock provider. So a processor that was told to stop is left in the
middle of its last job at most, and as the clock goes on from duty to duty it has ended by the
deadline of that job.
-/

namespace Rollcall

namespace Fleet

variable {f g : Fleet (Faulty Cluster)} {h : List Scene} {s : Scene} {n k : Nat} {w : Worker}
  {m : Member}

theorem follows_turned (f : Fleet (Faulty Cluster)) (w : Worker) (t : Tenancy) :
    ∃ q, w.processor.Follows f.now q ∧
      (f.turned w t).processor = { q with random := (f.turn w t).2.2 } :=
  ⟨(f.turn w t).1, ((w.processor.wake_meets_follows t.provider.session f.now).run (fun _ => True)
    (fun _ _ _ _ => trivial) (fun _ _ _ => trivial) trivial).1, rfl⟩

theorem acts_turn (f : Fleet (Faulty Cluster)) (w : Worker) (t : Tenancy) :
    ∃ l, Acts f l (f.turn w t).2.1 :=
  acts_carryOut f w.processor.random (w.processor.wake t.provider.session f.now)

/-- The processor has finished; or it has its lock provider, and does not go without pauses. -/
def InOrder (f : Fleet (Faulty Cluster)) (w : Worker) : Prop :=
  w.processor.isFinished = false → w.processor.Rests ∧ ∃ t, f.locks.get? w.lock = some t

/-- Every processor is in order. -/
def IsOrderly (f : Fleet (Faulty Cluster)) : Prop :=
  ∀ k w, f.workers.get? k = some w → f.InOrder w

theorem IsOrderly.rests_of_turned (ho : f.IsOrderly) {w₀ : Worker} {t : Tenancy}
    (hn : f.workers.get? n = some w₀) (ht : f.locks.get? w₀.lock = some t)
    (hw : (f.workers.put n (f.turned w₀ t)).get? k = some w)
    (hgoing : w.processor.isFinished = false) :
    w.processor.Rests ∧ ∃ t, f.locks.get? w.lock = some t := by
  obtain ⟨q, hfollows, hq⟩ := follows_turned f w₀ t
  rw [Table.get?_put] at hw
  split_ifs at hw
  · cases hw
    rw [hq] at hgoing ⊢
    have hgoing₀ : w₀.processor.isFinished = false := by
      by_contra hnot
      have := hfollows.isFinished (by simpa using hnot)
      exact absurd (hgoing.symm.trans this) Bool.false_ne_true
    exact ⟨hfollows.rests (ho n w₀ hn hgoing₀).1, t, ht⟩
  · exact ho k w hw hgoing

/-- A turn of a processor sweeps away no provider that a processor goes on with. -/
theorem get?_locks_wake_worker (hp : Paced f) {w₀ : Worker} {t t' : Tenancy}
    (hn : f.workers.get? n = some w₀) (ht : f.locks.get? w₀.lock = some t)
    (hw : (f.workers.put n (f.turned w₀ t)).get? k = some w)
    (hgoing : w.processor.isFinished = false) (ht' : f.locks.get? w.lock = some t') :
    (f.wake (.worker n)).locks.get? w.lock = some t' := by
  obtain ⟨l, ha⟩ := acts_turn f w₀ t
  have huse := (isInUse_iff (f := { (f.turn w₀ t).2.1 with
    workers := f.workers.put n (f.turned w₀ t) }) (hp.workers_unique.put n _)).mpr
      ⟨k, w, hw, rfl, hgoing⟩
  rw [wake_worker_eq hn ht]
  show ((f.turn w₀ t).2.1.locks.filter _).get? w.lock = some t'
  rw [ha.locks_eq, hp.locks_unique.get?_filter, ht', Option.filter_eq_some_iff]
  exact ⟨rfl, by rw [huse, Bool.or_true]⟩

theorem IsOrderly.wake (ho : f.IsOrderly) (hp : Paced f) (m : Member) : (f.wake m).IsOrderly := by
  intro k w hw hgoing
  cases m with
  | heartbeat n =>
    rw [workers_wake_heartbeat] at hw
    rw [locks_wake_heartbeat]
    exact ho k w hw hgoing
  | lock n =>
    rw [workers_wake_lock] at hw
    obtain ⟨hrests, t, ht⟩ := ho k w hw hgoing
    refine ⟨hrests, ?_⟩
    cases hl : f.locks.get? n with
    | none => exact ⟨t, by rw [wake_lock_of_none hl, ht]⟩
    | some t' =>
      obtain ⟨id, l, g, -, heq⟩ := wake_lock_eq hl
      rw [heq]
      show ∃ t, (f.locks.put n _).get? w.lock = some t
      rw [Table.get?_put]
      split_ifs
      · exact ⟨_, rfl⟩
      · exact ⟨t, ht⟩
  | worker n =>
    cases hn : f.workers.get? n with
    | none =>
      rw [wake_worker_of_none hn] at hw ⊢
      exact ho k w hw hgoing
    | some w₀ =>
      cases ht : f.locks.get? w₀.lock with
      | none =>
        rw [wake_worker_of_lost hn ht] at hw ⊢
        exact ho k w hw hgoing
      | some t =>
        have hput : (f.workers.put n (f.turned w₀ t)).get? k = some w := by
          rwa [wake_worker_eq hn ht] at hw
        obtain ⟨hrests, t', ht'⟩ := ho.rests_of_turned hn ht hput hgoing
        exact ⟨hrests, t', get?_locks_wake_worker hp hn ht hput hgoing ht'⟩

def lockRank (now : Nat) (t : Tenancy) : Nat := if t.provider.ticker.due ≤ now then 1 else 0

/-- How many turns the members of the fleet may want at an instant. -/
def load (f : Fleet (Faulty Cluster)) : Nat :=
  f.heartbeats.total (Heartbeat.rank f.now) + f.locks.total (lockRank f.now) +
    f.workers.total fun w => w.processor.rank f.now

theorem load_le (f : Fleet (Faulty Cluster)) :
    f.load ≤ 16 * (f.heartbeats.size + f.locks.size + f.workers.size + 1) := by
  have hbeats := f.heartbeats.total_le (Heartbeat.rank_le f.now)
  have hlocks : f.locks.total (lockRank f.now) ≤ f.locks.size * 1 :=
    f.locks.total_le fun t => by unfold lockRank; split_ifs <;> decide
  have hworkers := f.workers.total_le fun w => w.processor.rank_le f.now
  unfold load
  omega

theorem lock_of_mem_duties (hu : f.locks.Unique) {due : Nat} (hm : (due, .lock n) ∈ f.duties) :
    ∃ t, f.locks.get? n = some t ∧ t.provider.ticker.due = due := by
  simp only [duties, List.mem_append, List.mem_filterMap, List.mem_map, Option.map_eq_some_iff,
    Prod.mk.injEq, reduceCtorEq, and_false, exists_false, or_false, false_or,
    Member.lock.injEq] at hm
  obtain ⟨⟨k, t⟩, hmem, hdue, rfl⟩ := hm
  exact ⟨t, hu.get?_of_mem hmem, hdue⟩

theorem worker_of_mem_duties (hu : f.workers.Unique) {due : Nat}
    (hm : (due, .worker n) ∈ f.duties) :
    ∃ w, f.workers.get? n = some w ∧ w.processor.due = some due := by
  simp only [duties, List.mem_append, List.mem_filterMap, List.mem_map, Option.map_eq_some_iff,
    Prod.mk.injEq, reduceCtorEq, and_false, exists_false, false_or,
    Member.worker.injEq] at hm
  obtain ⟨⟨k, w⟩, hmem, _, hdue, rfl, rfl⟩ := hm
  exact ⟨w, hu.get?_of_mem hmem, hdue⟩

theorem mem_duties_worker {due : Nat} (hw : f.workers.get? n = some w)
    (hdue : w.processor.due = some due) : (due, .worker n) ∈ f.duties := by
  refine List.mem_append_right _ (List.mem_filterMap.mpr ⟨(n, w), Table.mem_entries_of_get? hw, ?_⟩)
  simp only [hdue, Option.map_some]

/-- A heartbeat or a lock provider that ticks wants fewer turns after it. -/
theorem load_wake_lt_of_ticks (hp : Paced f) (hticks : ∀ k, m ≠ .worker k) {due : Nat}
    (hm : (due, m) ∈ f.duties) (hle : due ≤ f.now) : (f.wake m).load < f.load := by
  unfold load
  rw [now_wake]
  cases m with
  | heartbeat k =>
    have hlt := total_rank_wake_lt hp hm hle
    rw [locks_wake_heartbeat, workers_wake_heartbeat]
    omega
  | lock k =>
    obtain ⟨t, ht, rfl⟩ := lock_of_mem_duties hp.locks_unique hm
    have hrest := hp.locks_unique.total_erase ht (lockRank f.now)
    have hbefore : lockRank f.now t = 1 := if_pos hle
    rw [heartbeats_wake_lock, workers_wake_lock]
    obtain ⟨id, l, g, -, heq⟩ := wake_lock_eq ht
    have hafter : lockRank f.now { t with provider := { t.provider with
        session := id, ticker := t.provider.ticker.advance f.now } } = 0 :=
      if_neg (not_le.mpr (Ticker.lt_due_advance (hp.locks k t ht)))
    rw [heq, Table.total_put, hafter]
    omega
  | worker k => exact absurd rfl (hticks k)

theorem load_wake_lt (hp : Paced f) (ho : f.IsOrderly) {due : Nat} (hm : (due, m) ∈ f.duties)
    (hle : due ≤ f.now) : (f.wake m).load < f.load := by
  cases m with
  | heartbeat k => exact load_wake_lt_of_ticks hp nofun hm hle
  | lock k => exact load_wake_lt_of_ticks hp nofun hm hle
  | worker k =>
    obtain ⟨w, hw, hdue⟩ := worker_of_mem_duties hp.workers_unique hm
    have hgoing : w.processor.isFinished = false := by
      by_contra hnot
      rw [Processor.due, Processor.phase_of_isFinished (by simpa using hnot)] at hdue
      cases hdue
    obtain ⟨hrests, t, ht⟩ := ho k w hw hgoing
    obtain ⟨q, hfollows, hq⟩ := follows_turned f w t
    obtain ⟨l, ha⟩ := acts_turn f w t
    have hlt : (f.turned w t).processor.rank f.now < w.processor.rank f.now :=
      hq ▸ hfollows.rank_lt hrests hdue hle
    have hrest := hp.workers_unique.total_erase hw fun w => w.processor.rank f.now
    have hput := f.workers.total_put k (f.turned w t) fun w => w.processor.rank f.now
    unfold load
    rw [now_wake, heartbeats_wake_worker, wake_worker_eq hw ht]
    set g : Fleet (Faulty Cluster) :=
      { (f.turn w t).2.1 with workers := f.workers.put k (f.turned w t) } with hg
    have hsweep : g.sweep.locks.total (lockRank f.now) ≤ f.locks.total (lockRank f.now) :=
      (Table.total_filter_le _ _ _).trans_eq (congrArg (Table.total · (lockRank f.now)) ha.locks_eq)
    show _ + g.sweep.locks.total _ + (f.workers.put k (f.turned w t)).total _ < _
    omega

/-- The members have nothing to do before the clock goes on. -/
def IsQuiet (f : Fleet (Faulty Cluster)) : Prop := ∀ d ∈ f.duties, f.now < d.1

theorem exists_earliest {d : Nat × Member} (hd : d ∈ f.duties) :
    ∃ due m, f.earliest = some (due, m) ∧ due ≤ d.1 := by
  cases hfirst : f.earliest with
  | none =>
    rw [earliest_eq_none hfirst] at hd
    exact absurd hd List.not_mem_nil
  | some b => exact ⟨b.1, b.2, rfl, (earliest_spec hfirst).2 d hd⟩

/-- A fleet in order settles until it is quiet. -/
theorem isQuiet_settle (hp : Paced f) (ho : f.IsOrderly) :
    (Paced f.settle ∧ f.settle.IsOrderly ∧ f.settle.now = f.now) ∧ f.settle.IsQuiet := by
  refine settleWithin_of_measure
    (fun g => Paced g ∧ g.IsOrderly ∧ g.now = f.now) IsQuiet load
    (fun g ⟨hp, ho, hnow⟩ hnot => ?_) (fun g m _ hquiet ⟨due, hfirst, hle⟩ => ?_)
    ⟨hp, ho, rfl⟩ (load_le f)
  · simp only [IsQuiet, not_forall, not_lt] at hnot
    obtain ⟨d, hd, hle⟩ := hnot
    obtain ⟨due, m, hfirst, hdue⟩ := exists_earliest hd
    exact ⟨due, m, hfirst, hdue.trans hle,
      ⟨hp.wake m, ho.wake hp m, (now_wake g m).trans hnow⟩,
      load_wake_lt hp ho (earliest_spec hfirst).1 (hdue.trans hle)⟩
  · exact absurd (hquiet _ (earliest_spec hfirst).1) (not_lt.mpr hle)

/-- A round of a fleet that is left to itself: it goes on to a duty, and settles there. -/
theorem isQuiet_round (hp : Paced f) (ho : f.IsOrderly) (due : Nat) :
    let g := settle { f with now := max f.now (Instant.ceilMilli due) }
    (Paced g ∧ g.IsOrderly ∧ g.now = max f.now (Instant.ceilMilli due)) ∧ g.IsQuiet :=
  isQuiet_settle (f := { f with now := max f.now (Instant.ceilMilli due) })
    (Paced.after (s := ⟨f, .pass (max f.now (Instant.ceilMilli due))⟩) hp) ho

/-- A scene of a fleet that is left to itself: a member is woken, or the clock goes on to the
millisecond in which the first duty is due. -/
def Scene.IsOwn (s : Scene) : Prop :=
  (∃ m, s.move = .wake m) ∨ ∃ due m, s.before.earliest = some (due, m) ∧
    s.move = .pass (max s.before.now (Instant.ceilMilli due))

theorem Scene.IsOwn.isInner (ho : s.IsOwn) : s.move.IsInner := by
  rcases ho with ⟨m, hm⟩ | ⟨due, m, -, hm⟩
  · rw [hm]
    trivial
  · rw [hm]
    trivial

theorem exists_course_runWhile (go : Nat → Fleet (Faulty Cluster) → Bool) (fuel : Nat)
    (f : Fleet (Faulty Cluster)) :
    ∃ h, Course f h (runWhile go fuel f) ∧ ∀ s ∈ h, s.IsOwn := by
  induction fuel generalizing f with
  | zero => exact ⟨[], .stay, nofun⟩
  | succ fuel ih =>
    simp only [Fleet.runWhile]
    split
    · next t m hfirst =>
      split_ifs
      · have hpass := Course.stay.go (f := f) (.pass (max f.now (Instant.ceilMilli t)))
          (le_max_left _ _)
        obtain ⟨h, c, hwakes⟩ := exists_course_settle
          { f with now := max f.now (Instant.ceilMilli t) }
        obtain ⟨h', c', hown⟩ := ih (settle { f with now := max f.now (Instant.ceilMilli t) })
        refine ⟨_, (hpass.trans c).trans c', fun s hs => ?_⟩
        rcases List.mem_append.mp hs with hs | hs
        · exact hown s hs
        · rcases List.mem_append.mp hs with hs | hs
          · exact .inl (hwakes s hs)
          · rw [List.mem_singleton.mp hs]
            exact .inr ⟨t, m, hfirst, rfl⟩
      · exact ⟨[], .stay, nofun⟩
    · exact ⟨[], .stay, nofun⟩

theorem exists_course_joinWorker (f : Fleet (Faulty Cluster)) (n : Nat) :
    ∃ h, Course f h (f.joinWorker n) ∧ ∀ s ∈ h, s.IsOwn := by
  obtain ⟨h, c, hwakes⟩ := exists_course_settle f
  obtain ⟨h', c', hown⟩ := exists_course_runWhile (fun _ f => !f.workerIsOver n)
    (f.settle.jobBound n + 1) f.settle
  exact ⟨_, c.trans c', fun s hs =>
    (List.mem_append.mp hs).elim (hown s) fun hs => .inl (hwakes s hs)⟩

theorem ofMillis_le {now due : Nat} (h : now < due) (rounds : Nat) :
    Duration.ofMillis (Duration.millis now + (rounds + 1)) ≤
      Duration.ofMillis (Duration.millis (Instant.ceilMilli due) + rounds) := by
  have hnext : now / 1000000 + 1 ≤ (due + 999999) / 1000000 := by omega
  unfold Duration.ofMillis Duration.millis Instant.ceilMilli
  rw [Nat.mul_div_cancel _ (by decide : 0 < 1000000)]
  exact Nat.mul_le_mul_right _ (by omega)

theorem lt_ofMillis (now deadline : Nat) : deadline <
    Duration.ofMillis (Duration.millis now + (Duration.millis (deadline - now) + 1 + 1)) := by
  unfold Duration.ofMillis Duration.millis
  omega

/-- The processor has finished, or it has been told to stop and has no job beyond the limit. -/
def Ends (f : Fleet (Faulty Cluster)) (n limit : Nat) : Prop :=
  ∃ w, f.workers.get? n = some w ∧ w.processor.EndsBy limit

theorem Ends.wake {limit : Nat} (he : f.Ends n limit) (m : Member) : (f.wake m).Ends n limit := by
  obtain ⟨w, hw, hends⟩ := he
  cases m with
  | heartbeat k => exact ⟨w, (congrArg (·.get? n) (workers_wake_heartbeat f k)).trans hw, hends⟩
  | lock k => exact ⟨w, (congrArg (·.get? n) (workers_wake_lock f k)).trans hw, hends⟩
  | worker k =>
    cases hk : f.workers.get? k with
    | none => exact ⟨w, by rw [wake_worker_of_none hk, hw], hends⟩
    | some w₀ =>
      cases ht : f.locks.get? w₀.lock with
      | none => exact ⟨w, by rw [wake_worker_of_lost hk ht, hw], hends⟩
      | some t =>
        rw [wake_worker_eq hk ht]
        show ∃ w, (f.workers.put k (f.turned w₀ t)).get? n = some w ∧ _
        rw [Table.get?_put]
        split_ifs with hn
        · subst hn
          cases hw.symm.trans hk
          obtain ⟨q, hfollows, hq⟩ := follows_turned f w t
          exact ⟨_, rfl, hq ▸ hfollows.endsBy hends⟩
        · exact ⟨w, hw, hends⟩

theorem Ends.settle {limit : Nat} (he : f.Ends n limit) : f.settle.Ends n limit := by
  obtain ⟨h, c, hwakes⟩ := exists_course_settle f
  generalize f.settle = g at c
  induction c with
  | stay => exact he
  | go _ m _ ih =>
    rw [List.forall_mem_cons] at hwakes
    obtain ⟨⟨m', rfl⟩, hwakes⟩ := hwakes
    exact (ih hwakes).wake m'

theorem workerIsOver_eq_false (hover : ¬ f.workerIsOver n = true) :
    ∃ w, f.workers.get? n = some w ∧ w.processor.isFinished = false := by
  unfold workerIsOver at hover
  split at hover
  · exact absurd rfl hover
  · next w hw => exact ⟨w, hw, by simpa using hover⟩

/-- In a quiet fleet a processor that was told to stop is due when its last job is. -/
theorem Ends.exists_duty {limit : Nat} (he : f.Ends n limit) (hq : f.IsQuiet)
    (hover : ¬ f.workerIsOver n = true) : ∃ d ∈ f.duties, d.1 ≤ limit := by
  obtain ⟨w, hw, hgoing⟩ := workerIsOver_eq_false hover
  obtain ⟨w', hw', hends⟩ := he
  cases hw.symm.trans hw'
  obtain ⟨guard, rest, resume, deadline, hphase, hlimit⟩ := hends.working
    (fun t ht => hq _ (mem_duties_worker hw ht)) hgoing
  have hdue : w.processor.due = some (min resume deadline) := by rw [Processor.due, hphase]
  exact ⟨_, mem_duties_worker hw hdue, (min_le_right _ _).trans hlimit⟩

theorem exists_ends_signalWorker (hw : f.workers.get? n = some w) :
    ∃ limit, (f.signalWorker n (·.send true)).Ends n limit := by
  have hget : (f.signalWorker n (·.send true)).workers.get? n =
      some { w with processor := { w.processor with signal := w.processor.signal.send true } } := by
    simp only [Fleet.signalWorker, hw, Table.get?_put, if_true]
  cases hphase : w.processor.phase with
  | working guard rest resume deadline =>
    refine ⟨deadline, _, hget, .inr ⟨rfl, rfl, ?_⟩⟩
    rintro _ _ _ _ h
    cases hphase.symm.trans h
    exact le_rfl
  | _ =>
    refine ⟨0, _, hget, .inr ⟨rfl, rfl, ?_⟩⟩
    rintro _ _ _ _ h
    cases hphase.symm.trans h

theorem isOrderly_signalWorker (hw : f.workers.get? n = some w)
    (ht : ∃ t, f.locks.get? w.lock = some t)
    (ho : ∀ k v, k ≠ n → f.workers.get? k = some v → f.InOrder v) :
    (f.signalWorker n (·.send true)).IsOrderly := by
  intro k v hv hgoing
  have hput : (f.signalWorker n (·.send true)).workers = f.workers.put n
      { w with processor := { w.processor with signal := w.processor.signal.send true } } := by
    simp only [signalWorker, hw]
  rw [hput, Table.get?_put] at hv
  rw [locks_signalWorker]
  split_ifs at hv with hk
  · cases hv
    exact ⟨.inl rfl, ht⟩
  · exact ho k v hk hv hgoing

theorem runWhile_of_over {fuel : Nat} (hover : f.workerIsOver n = true) :
    runWhile (fun _ g => !g.workerIsOver n) fuel f = f := by
  cases fuel with
  | zero => rfl
  | succ fuel =>
    simp only [Fleet.runWhile, hover, Bool.not_true, Bool.false_eq_true, if_false]
    split <;> rfl

/-- Each round takes the clock to another millisecond, until the last job is over. -/
theorem workerIsOver_runWhile {limit fuel : Nat} (hp : Paced f) (ho : f.IsOrderly) (hq : f.IsQuiet)
    (he : f.Ends n limit) (hfuel : limit < Duration.ofMillis (Duration.millis f.now + fuel)) :
    (runWhile (fun _ g => !g.workerIsOver n) fuel f).workerIsOver n = true := by
  induction fuel generalizing f with
  | zero =>
    by_contra hover
    obtain ⟨d, hd, hlimit⟩ := he.exists_duty hq hover
    have hnow := hq d hd
    simp only [Duration.ofMillis, Duration.millis] at hfuel
    omega
  | succ fuel ih =>
    by_cases hover : f.workerIsOver n = true
    · rw [runWhile_of_over hover]
      exact hover
    · obtain ⟨d, hd, hlimit⟩ := he.exists_duty hq hover
      obtain ⟨due, m, hfirst, hdue⟩ := exists_earliest hd
      have hnow := hq _ (earliest_spec hfirst).1
      have hgo : (!f.workerIsOver n) = true := by simpa using hover
      simp only [Fleet.runWhile, hfirst]
      rw [if_pos hgo]
      obtain ⟨⟨hp', ho', hnow'⟩, hq'⟩ := isQuiet_round hp ho due
      refine ih hp' ho' hq' (Ends.settle he) ?_
      rw [hnow', max_eq_right (hnow.le.trans (Instant.le_ceilMilli due))]
      exact hfuel.trans_le (ofMillis_le hnow fuel)

/-- To wait for a processor that was told to stop is to wait until it has finished. -/
theorem workerIsOver_joinWorker {limit : Nat} (hp : Paced f) (ho : f.IsOrderly)
    (he : f.Ends n limit) : (f.joinWorker n).workerIsOver n = true := by
  obtain ⟨⟨hp', ho', -⟩, hq⟩ := isQuiet_settle hp ho
  unfold joinWorker
  by_cases hover : f.settle.workerIsOver n = true
  · rw [runWhile_of_over hover]
    exact hover
  · obtain ⟨w, hw, hgoing⟩ := workerIsOver_eq_false hover
    obtain ⟨w', hw', hends⟩ := he.settle
    cases hw.symm.trans hw'
    obtain ⟨guard, rest, resume, deadline, hphase, -⟩ := hends.working
      (fun t ht => hq _ (mem_duties_worker hw ht)) hgoing
    have hlast : f.settle.Ends n deadline := ⟨w, hw, by
      refine hends.imp_right fun ⟨hvalue, hnews, _⟩ => ⟨hvalue, hnews, ?_⟩
      rintro _ _ _ _ h
      cases hphase.symm.trans h
      exact le_rfl⟩
    have hbound : f.settle.jobBound n = Duration.millis (deadline - f.settle.now) + 1 := by
      obtain ⟨⟨_, _, _, _, _⟩, _⟩ := w
      cases hphase
      simp only [jobBound, hw]
    refine workerIsOver_runWhile hp' ho' hq hlast ?_
    rw [hbound]
    exact lt_ofMillis _ _

end Fleet

end Rollcall
