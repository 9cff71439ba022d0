import Rollcall.Proofs.Fleet.Invariant

/-!
# Every step keeps a fleet sound

Members are woken, the clock moves, and hands reach in from outside, one step at a time. As each
step keeps the fleet sound, so does every run.
-/

namespace Rollcall.Fleet

variable {f g : Fleet (Faulty Cluster)}

theorem Sound.wakeHeartbeat (h : f.Sound) (n : Nat) : (f.wake (.heartbeat n)).Sound := by
  simp only [Fleet.wake]
  split
  · exact h
  · next beat _ =>
    have hreport : beat.call.Within ∅ ∅ := trivial
    split_ifs
    · exact (h.keeps_empty (keeps_perform h.backend hreport)).heartbeats _
    · exact h.heartbeats _

theorem due_of_mem_duties (hu : f.locks.Unique) {t n : Nat} (hm : (t, .lock n) ∈ f.duties) :
    ∃ l, f.locks.get? n = some l ∧ l.provider.ticker.due = t := by
  simp only [duties, List.mem_append, List.mem_filterMap, List.mem_map, Option.map_eq_some_iff,
    Prod.mk.injEq, reduceCtorEq, and_false, exists_false, false_or, or_false, Member.lock.injEq]
    at hm
  obtain ⟨⟨n, l⟩, hmem, rfl, rfl⟩ := hm
  exact ⟨l, hu.get?_of_mem hmem, rfl⟩

theorem callAll_ask {B : Type} [Backend B] {α : Type} (f : Fleet B) (c : Call)
    (k : c.Outcome → Plan Calls α) :
    f.callAll (.ask c k) = (f.perform c).2.callAll (k (f.perform c).1) :=
  rfl

theorem callAll_tick (hs : f.backend.Sound) {p : LockProvider} (hp : p.Kept f.now f.backend) :
    f.callAll (p.tick f.now) =
      ({ p with ticker := p.ticker.advance f.now }, (f.perform (.renewSession p.session)).2) := by
  have hok : (f.perform (.renewSession p.session)).1 = .ok () := (hs.perform_renew hp.alive).1
  simp only [LockProvider.tick, LockProvider.renewSession, Plan.bind]
  rw [callAll_ask, hok]
  rfl

theorem Sound.wakeLock (h : f.Sound) {n : Nat} {l : Tenancy} (hl : f.locks.get? n = some l)
    (hdue : l.provider.ticker.due ≤ f.now) : (f.wake (.lock n)).Sound := by
  have hkept := (h.lock n l hl).2
  have hsound := h.keeps_empty (keeps_perform h.backend (c := .renewSession l.provider.session)
    trivial)
  simp only [wake, hl, callAll_tick h.backend hkept]
  refine hsound.putLock (k := l) hl rfl ?_
  exact hkept.advance hdue (h.backend.perform_renew hkept.alive).2

theorem Sound.wakeWorker (h : f.Sound) (n : Nat) : (f.wake (.worker n)).Sound := by
  simp only [Fleet.wake]
  split
  · exact h
  · next w hw =>
    split
    · exact h
    · next l hl =>
      obtain ⟨hjob, hwork⟩ := h.worker n w hw
      have hguards : w.processor.phase.Guards w.processor.settings.lockKey l.provider.session
          f.backend := by
        cases hat : w.processor.isAtWork with
        | false => exact Processor.guards_of_not_isAtWork hat
        | true =>
          obtain ⟨k, hk, hguards⟩ := hwork hat
          cases hk.symm.trans hl
          exact hguards
      have hturn := Processor.turn_wake h.backend (h.lock _ l hl).2.alive hjob hguards
        w.processor.random
      generalize f.carryOut (fun _ f => f) w.processor.random
        (w.processor.wake l.provider.session f.now) = r at hturn
      obtain ⟨q, g, random⟩ := r
      exact (h.turn hw hl (q := { q with random }) ⟨hturn.settings_eq, hturn.job_eq,
        hturn.isFinished, hturn.guards, hturn.keeps⟩).sweep

theorem Sound.wake (h : f.Sound) {t : Nat} {m : Member} (hm : (t, m) ∈ f.duties)
    (ht : t ≤ f.now) : (f.wake m).Sound := by
  cases m with
  | heartbeat n => exact h.wakeHeartbeat n
  | lock n =>
    obtain ⟨l, hl, rfl⟩ := due_of_mem_duties h.locks_unique hm
    exact h.wakeLock hl ht
  | worker n => exact h.wakeWorker n

theorem Sound.moveTo (h : f.Sound) {target : Nat} (hnow : f.now ≤ target)
    (htarget : ∀ n l, f.locks.get? n = some l →
      target ≤ max f.now (l.provider.ticker.due + l.provider.ttl / 2)) :
    Sound { f with now := target } where
  backend := h.backend
  locks_unique := h.locks_unique
  workers_unique := h.workers_unique
  lock := by
    intro n l hl
    obtain ⟨hn, hkept⟩ := h.lock n l hl
    exact ⟨hn, hkept.pass hnow (htarget n l hl)⟩
  apart := h.apart
  worker := h.worker
  alone := h.alone

theorem Sound.inject (h : f.Sound) {fault : Fault} (hfault : fault.on ≠ .renewSession) :
    Sound { f with backend := f.backend.inject fault } where
  backend := by
    refine ⟨h.backend.behind, fun x hx => ?_⟩
    rcases List.mem_append.mp hx with hx | hx
    · exact h.backend.renews x hx
    · rw [List.mem_singleton.mp hx]
      exact hfault
  locks_unique := h.locks_unique
  workers_unique := h.workers_unique
  lock := by
    intro n l hl
    obtain ⟨hn, hkept⟩ := h.lock n l hl
    exact ⟨hn, hkept.shortest_le, hkept.period_eq, hkept.due_le, hkept.lasts⟩
  apart := h.apart
  worker := h.worker
  alone := h.alone

/-- A call from outside spares the sessions of all providers. -/
theorem Sound.outside (h : f.Sound) (hk : Keeps f.sessionsᶜ f.sessionsᶜ f g) : g.Sound := by
  refine h.keeps hk (fun n l hl hmem => ?_) fun n w l _ _ hl hmem => ?_
  · exact hmem ⟨n, l, hl, rfl⟩
  · exact hmem ⟨w.lock, l, hl, rfl⟩

theorem Sound.startHeartbeat (h : f.Sound) (id : InstanceId) (service : String) (period : Nat)
    (signal : Signal) : (f.startHeartbeat id service period signal).2.Sound :=
  (h.heartbeats (f.heartbeats.put f.admitted (.start f.now id service period signal))).enrol

theorem Sound.signalHeartbeat (h : f.Sound) (n : Nat) (change : Signal → Signal) :
    (f.signalHeartbeat n change).Sound := by
  unfold Fleet.signalHeartbeat
  split
  · exact h
  · exact h.heartbeats _

theorem Sound.openLock (h : f.Sound) {ttl : Nat} (httl : shortestTtl ≤ ttl) :
    (f.openLock ttl).2.Sound := by
  have hsound := h.keeps_empty (keeps_perform h.backend (c := .createSession ttl) trivial)
  have hstart : f.callAll (LockProvider.start f.now ttl) =
      (((f.perform (.createSession ttl)).1 : Except Error SessionId).map
        (LockProvider.holding f.now ttl), (f.perform (.createSession ttl)).2) := rfl
  unfold Fleet.openLock
  rw [hstart]
  rcases hr : (f.perform (.createSession ttl)).1 with e | id
  · exact hsound
  · obtain ⟨hunknown, hl⟩ := h.backend.perform_create hr
    refine hsound.addLock (LockProvider.kept_holding httl hl) ?_
    rintro ⟨n, l, hn, rfl⟩
    obtain ⟨v, hv, -⟩ := (h.lock n l hn).2.lasts
    cases hunknown.symm.trans hv

theorem Sound.dropLock (h : f.Sound) (n : Nat) : (f.dropLock n).Sound := by
  unfold Fleet.dropLock
  split
  · exact h
  · next l hl =>
    have hput := h.putLock (l := { l with isHandled := false }) hl rfl (h.lock n l hl).2
    exact hput.sweep

theorem Sound.closeLock (h : f.Sound) {n : Nat} (hn : f.isInUse n = false) :
    (f.closeLock n).2.Sound := by
  unfold Fleet.closeLock
  split
  · exact h
  · next l hl =>
    have hrest : Sound { f with locks := f.locks.erase n } := by
      refine h.filterLocks fun m k hm => decide_eq_true ?_
      rintro rfl
      rw [hn] at hm
      cases hm
    have hk : Keeps {l.provider.session} ∅ { f with locks := f.locks.erase n }
        ({ f with locks := f.locks.erase n }.perform (.destroySession l.provider.session)).2 :=
      keeps_perform hrest.backend (Set.mem_singleton _)
    refine hrest.keeps hk (fun m k hk hsame => ?_) fun _ _ _ _ _ _ => id
    simp only [Table.get?_erase] at hk
    split_ifs at hk with heq
    exact heq (h.apart m n k l hk hl hsame)

theorem Sound.startWorker (h : f.Sound) {lock : Nat} {p : Processor} (hready : p.isAtWork = false)
    (hjob : Work.KeepsOffLocks p.job.plan) (hlock : f.isInUse lock = false) :
    (f.startWorker lock p).2.Sound := by
  have hput : Sound { f with workers := f.workers.put f.admitted ⟨p, lock⟩ } := by
    refine h.putWorker hjob (fun hat => ?_) fun m v _ hv hgoing _ hsame => ?_
    · rw [hready] at hat
      cases hat
    · have huse := (isInUse_iff h.workers_unique).mpr ⟨m, v, hv, hsame, hgoing⟩
      rw [hlock] at huse
      cases huse
  exact hput.enrol

theorem Sound.signalWorker (h : f.Sound) (n : Nat) (change : Signal → Signal) :
    (f.signalWorker n change).Sound := by
  unfold Fleet.signalWorker
  split
  · exact h
  · next w hw =>
    obtain ⟨hjob, hwork⟩ := h.worker n w hw
    refine h.putWorker hjob hwork fun m v hm hv hgoing hgoing' hsame => ?_
    exact hm (h.alone m n v w hv hw hgoing hgoing' hsame)

theorem Sound.step (h : f.Sound) (hstep : Step f g) : g.Sound := by
  cases hstep with
  | wake hm ht => exact h.wake hm ht
  | pass hnow hdue =>
    refine h.moveTo hnow fun n l hl => (hdue n l hl).trans ?_
    have := (h.lock n l hl).2.shortest_le
    simp only [shortestTtl, Duration.ofMillis, Instant.ceilMilli] at *
    omega
  | leap hnow hdue =>
    refine h.moveTo hnow fun n l hl => ?_
    have := hdue n l hl
    omega
  | inject hfault => exact h.inject hfault
  | ask hc => exact h.outside (keeps_ask h.backend hc)
  | perform hc => exact h.outside (keeps_perform h.backend hc)
  | startHeartbeat => exact h.startHeartbeat _ _ _ _
  | signalHeartbeat => exact h.signalHeartbeat _ _
  | openLock httl => exact h.openLock httl
  | dropLock => exact h.dropLock _
  | closeLock hn => exact h.closeLock hn
  | startWorker hready hjob hlock => exact h.startWorker hready hjob hlock
  | signalWorker => exact h.signalWorker _ _
  | dismissWorker => exact (h.eraseWorker _).sweep

theorem sound_start (registry : Registry) :
    Sound { backend := { behind := { registry } } } where
  backend := by
    refine ⟨⟨LockStore.wellFormed_empty, fun id v hv => ?_⟩, fun x hx => ?_⟩
    · cases hv
    · cases hx
  locks_unique := Table.unique_empty
  workers_unique := Table.unique_empty
  lock := by intro n l hl; cases hl
  apart := by intro m n k l hk; cases hk
  worker := by intro n w hw; cases hw
  alone := by intro m n v w hv; cases hv

theorem Reachable.sound (h : Reachable f) : f.Sound := by
  induction h with
  | start registry => exact sound_start registry
  | step _ hstep ih => exact ih.step hstep

end Rollcall.Fleet
