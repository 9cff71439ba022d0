import Rollcall.Proofs.Fleet.Beat
import Rollcall.Proofs.Fleet.Lapse

/-!
# Members that are over

A heartbeat that has ended, a processor that has finished or was let go of, and a lock provider that
has gone make no call any more. Numbers are not given out twice, so no other member is ever taken
for one of them.
-/

namespace Rollcall.Fleet

variable {f g : Fleet (Faulty Cluster)} {h h' : List Scene} {s : Scene} {m : Member} {n : Nat}

theorem Scene.move_of_actor_worker (ha : s.actor? = some (.worker n)) :
    s.move = .wake (.worker n) := by
  obtain ⟨f, m⟩ := s
  cases m with
  | wake m =>
    cases ha
    rfl
  | _ => cases ha

/-- The member was there, and there is nothing left for it to do. -/
def IsOver (f : Fleet (Faulty Cluster)) : Member → Prop
  | .heartbeat n => n < f.admitted ∧ f.heartbeatIsOver n = true
  | .lock n => Gone f n
  | .worker n => n < f.admitted ∧ f.workerIsOver n = true

theorem heartbeatIsOver_of_get? {f g : Fleet (Faulty Cluster)}
    (h : g.heartbeats.get? n = f.heartbeats.get? n) :
    g.heartbeatIsOver n = f.heartbeatIsOver n := by
  unfold heartbeatIsOver
  rw [h]

theorem workerIsOver_of_get? {f g : Fleet (Faulty Cluster)}
    (h : g.workers.get? n = f.workers.get? n) : g.workerIsOver n = f.workerIsOver n := by
  unfold workerIsOver
  rw [h]

theorem workerIsOver_of_none (h : f.workers.get? n = none) : f.workerIsOver n = true := by
  unfold workerIsOver
  rw [h]

theorem workerIsOver_of_some {w : Worker} (h : f.workers.get? n = some w) :
    f.workerIsOver n = w.processor.isFinished := by
  unfold workerIsOver
  rw [h]

theorem wake_heartbeat_of_over (ho : f.heartbeatIsOver n = true) :
    (f.wake (.heartbeat n)).journal = f.journal ∧
      (f.wake (.heartbeat n)).heartbeatIsOver n = true := by
  unfold heartbeatIsOver at ho ⊢
  simp only [Fleet.wake]
  split at ho
  · next hnone => simp only [hnone, and_self]
  · next beat hbeat =>
    have hturn : beat.wake f.now = ⟨false, beat⟩ := by rw [Heartbeat.wake, if_pos ho]
    simp only [hbeat, hturn, Bool.false_eq_true, if_false, Table.get?_put, if_true, ho, and_self]

theorem wake_worker_of_over (ho : f.workerIsOver n = true) :
    (f.wake (.worker n)).journal = f.journal ∧ (f.wake (.worker n)).workerIsOver n = true := by
  cases hw : f.workers.get? n with
  | none =>
    rw [wake_worker_of_none hw]
    exact ⟨rfl, ho⟩
  | some w =>
    cases ht : f.locks.get? w.lock with
    | none =>
      rw [wake_worker_of_lost hw ht]
      exact ⟨rfl, ho⟩
    | some t =>
      have hfinished : w.processor.isFinished = true := (workerIsOver_of_some hw).symm.trans ho
      have hturn : f.turn w t = (w.processor, f, w.processor.random) := by
        unfold turn Processor.wake
        rw [Processor.phase_of_isFinished hfinished]
        rfl
      have hget : (f.wake (.worker n)).workers.get? n = some (f.turned w t) := by
        rw [wake_worker_eq hw ht]
        exact (Table.get?_put _ _ _ _).trans (if_pos rfl)
      rw [workerIsOver_of_some hget, wake_worker_eq hw ht, turned, hturn]
      exact ⟨rfl, hfinished⟩

theorem heartbeatIsOver_signalHeartbeat {change : Signal → Signal}
    (ho : f.heartbeatIsOver n = true) : (f.signalHeartbeat n change).heartbeatIsOver n = true := by
  unfold heartbeatIsOver signalHeartbeat at *
  split at ho
  · next hnone => simp only [hnone]
  · next beat hbeat => simp only [hbeat, Table.get?_put, if_true, ho]

theorem workerIsOver_signalWorker {change : Signal → Signal} (ho : f.workerIsOver n = true) :
    (f.signalWorker n change).workerIsOver n = true := by
  unfold workerIsOver signalWorker at *
  split at ho
  · next hnone => simp only [hnone]
  · next w hw =>
    simp only [hw, Table.get?_put, if_true]
    exact ho

theorem IsOver.after (hl : Ledger h s.before) (ho : s.before.IsOver m) : s.after.IsOver m := by
  have hle := s.admitted_le
  cases m with
  | lock n => exact Gone.after hl ho
  | heartbeat n =>
    refine ⟨ho.1.trans_le hle, ?_⟩
    by_cases ha : s.actor? = some (.heartbeat n)
    · rw [Scene.after, Scene.move_of_actor_heartbeat ha]
      exact (wake_heartbeat_of_over ho.2).2
    · by_cases hs : ∃ change, s.move = .signalHeartbeat n change
      · obtain ⟨change, hmove⟩ := hs
        rw [Scene.after, hmove]
        exact heartbeatIsOver_signalHeartbeat ho.2
      · rw [heartbeatIsOver_of_get? (Scene.get?_heartbeats ho.1.ne ha (not_exists.mp hs))]
        exact ho.2
  | worker n =>
    refine ⟨ho.1.trans_le hle, ?_⟩
    by_cases ha : s.actor? = some (.worker n)
    · rw [Scene.after, Scene.move_of_actor_worker ha]
      exact (wake_worker_of_over ho.2).2
    · by_cases hs : ∃ change, s.move = .signalWorker n change
      · obtain ⟨change, hmove⟩ := hs
        rw [Scene.after, hmove]
        exact workerIsOver_signalWorker ho.2
      · by_cases hd : s.move = .dismissWorker n
        · rw [Scene.after, hd]
          exact workerIsOver_of_none ((Table.get?_erase _ _ _).trans (if_pos rfl))
        · rw [workerIsOver_of_get? (Scene.get?_workers ho.1.ne ha (not_exists.mp hs) hd)]
          exact ho.2

theorem IsOver.happenings (ho : s.before.IsOver m) (ha : s.actor? = some m) :
    s.happenings = [] := by
  have hquiet : s.after.journal = s.before.journal → s.happenings = [] :=
    Scene.happenings_of_acts (.refl s.before)
  cases m with
  | lock n => exact Gone.happenings ho ha
  | heartbeat n =>
    refine hquiet ?_
    rw [Scene.after, Scene.move_of_actor_heartbeat ha]
    exact (wake_heartbeat_of_over ho.2).1
  | worker n =>
    refine hquiet ?_
    rw [Scene.after, Scene.move_of_actor_worker ha]
    exact (wake_worker_of_over ho.2).1

/-- A member that is over stays so, and makes no call. -/
theorem Course.silent {registry : Registry} (c : Course (start registry) h f) (ho : f.IsOver m)
    (c' : Course f h' g) : g.IsOver m ∧ deeds h' m = [] := by
  induction c' with
  | stay => exact ⟨ho, rfl⟩
  | @go h' g c' move hm ih =>
    obtain ⟨hover, hdeeds⟩ := ih
    refine ⟨IsOver.after (s := ⟨g, move⟩) (c.trans c').ledger hover, ?_⟩
    by_cases ha : (Scene.mk g move).actor? = some m
    · rw [deeds_cons_of_actor ha, hdeeds, Scene.events_eq,
        IsOver.happenings (s := ⟨g, move⟩) hover ha]
      rfl
    · rw [deeds_cons_of_ne ha, hdeeds]

end Rollcall.Fleet
