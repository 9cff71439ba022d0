import Rollcall.Proofs.Fleet.Ledger

/-!
# Heartbeats and processors after a move

A move changes at most one heartbeat, or at most one processor: it is woken, signalled, started, or,
if it is a processor, let go of. From this it follows what no move changes: whom a heartbeat
reports, and that all that ticks waits longer between two ticks than a tick may be late.
-/

namespace Rollcall

@[simp] theorem Heartbeat.period_next_wake (beat : Heartbeat) (now : Nat) :
    (beat.wake now).next.ticker.period = beat.ticker.period := by
  unfold Heartbeat.wake
  split_ifs <;> simp

namespace Fleet

variable {f g : Fleet (Faulty Cluster)} {h : List Scene} {s : Scene} {n k : Nat}
  {beat : Heartbeat} {w : Worker} {t : Tenancy}

theorem Acts.workers_eq {l : List Happening} (ha : Acts f l g) : g.workers = f.workers := by
  rw [ha.eq]

theorem heartbeats_wake_lock (f : Fleet (Faulty Cluster)) (k : Nat) :
    (f.wake (.lock k)).heartbeats = f.heartbeats := by
  cases hl : f.locks.get? k with
  | none => rw [wake_lock_of_none hl]
  | some t =>
    obtain ⟨id, l, g, htick, heq⟩ := wake_lock_eq hl
    rw [heq, ← htick.acts.heartbeats_eq]

theorem heartbeats_wake_worker (f : Fleet (Faulty Cluster)) (k : Nat) :
    (f.wake (.worker k)).heartbeats = f.heartbeats := by
  simp only [Fleet.wake]
  split
  · rfl
  · next w _ =>
    split
    · rfl
    · next t _ =>
      obtain ⟨l, ha⟩ := acts_carryOut f w.processor.random
        (w.processor.wake t.provider.session f.now)
      exact ha.heartbeats_eq

theorem heartbeats_wake_heartbeat (hb : f.heartbeats.get? k = some beat) :
    (f.wake (.heartbeat k)).heartbeats = f.heartbeats.put k (beat.wake f.now).next := by
  simp only [Fleet.wake, hb]
  split_ifs <;> rfl

theorem wake_heartbeat_of_none (hb : f.heartbeats.get? k = none) : f.wake (.heartbeat k) = f := by
  simp only [Fleet.wake, hb]

inductive Scene.Changes (s : Scene) (k : Nat) : Heartbeat → Prop
  | woken (hm : s.move = .wake (.heartbeat k)) {beat}
      (hb : s.before.heartbeats.get? k = some beat) : Changes s k (beat.wake s.before.now).next
  | signalled {change} (hm : s.move = .signalHeartbeat k change) {beat}
      (hb : s.before.heartbeats.get? k = some beat) :
      Changes s k { beat with signal := change beat.signal }
  | started {id service period signal} (hm : s.move = .startHeartbeat id service period signal)
      (hk : k = s.before.admitted) : Changes s k (.start s.before.now id service period signal)

theorem Scene.heartbeats_cases (s : Scene) : s.after.heartbeats = s.before.heartbeats ∨
    ∃ k beat, s.Changes k beat ∧ s.after.heartbeats = s.before.heartbeats.put k beat := by
  obtain ⟨f, m⟩ := s
  show (f.after m).heartbeats = f.heartbeats ∨ _
  cases m with
  | wake m =>
    cases m with
    | heartbeat k =>
      cases hb : f.heartbeats.get? k with
      | none => exact .inl (congrArg heartbeats (wake_heartbeat_of_none hb))
      | some beat => exact .inr ⟨k, _, .woken rfl hb, heartbeats_wake_heartbeat hb⟩
    | lock k => exact .inl (heartbeats_wake_lock f k)
    | worker k => exact .inl (heartbeats_wake_worker f k)
  | startHeartbeat id service period signal => exact .inr ⟨_, _, .started rfl rfl, rfl⟩
  | signalHeartbeat k change =>
    cases hb : f.heartbeats.get? k with
    | none => exact .inl (by rw [Fleet.after, Fleet.signalHeartbeat, hb])
    | some beat =>
      refine .inr ⟨k, _, .signalled rfl hb, ?_⟩
      simp only [Scene.after, Fleet.after, Fleet.signalHeartbeat, hb]
  | openLock ttl =>
    rcases openLock_cases f ttl with ⟨e, -, heq⟩ | ⟨id, -, heq⟩
    · exact .inl (by rw [Fleet.after, heq]; rfl)
    · exact .inl (by rw [Fleet.after, heq]; rfl)
  | dropLock k =>
    simp only [Fleet.after, Fleet.dropLock]
    split <;> exact .inl rfl
  | closeLock k =>
    simp only [Fleet.after, Fleet.closeLock]
    split <;> exact .inl rfl
  | signalWorker k change =>
    simp only [Fleet.after, Fleet.signalWorker]
    split <;> exact .inl rfl
  | _ => exact .inl rfl

/-- A heartbeat that is there after a scene is as it was, or the scene has changed it. -/
theorem Scene.heartbeat_of (hb : s.after.heartbeats.get? n = some beat) :
    s.before.heartbeats.get? n = some beat ∨ s.Changes n beat := by
  rcases s.heartbeats_cases with heq | ⟨k, beat', hchange, heq⟩
  · exact .inl (heq ▸ hb)
  · rw [heq, Table.get?_put] at hb
    split_ifs at hb with hk
    · cases hb
      exact .inr (hk ▸ hchange)
    · exact .inl hb

theorem Scene.get?_heartbeats (hn : n ≠ s.before.admitted)
    (ha : s.actor? ≠ some (.heartbeat n)) (hs : ∀ change, s.move ≠ .signalHeartbeat n change) :
    s.after.heartbeats.get? n = s.before.heartbeats.get? n := by
  rcases s.heartbeats_cases with heq | ⟨k, beat, hchange, heq⟩
  · rw [heq]
  · rw [heq, Table.get?_put, if_neg]
    rintro rfl
    cases hchange with
    | woken hm => exact ha (by rw [Scene.actor?, hm])
    | signalled hm => exact hs _ hm
    | started hm hk => exact hn hk

/-- What a processor does in a turn: the processor after it, the fleet after its calls, and the lots
that are left to draw. -/
def turn (f : Fleet (Faulty Cluster)) (w : Worker) (t : Tenancy) :
    Processor × Fleet (Faulty Cluster) × RandomSource :=
  f.carryOut (fun _ f => f) w.processor.random (w.processor.wake t.provider.session f.now)

def turned (f : Fleet (Faulty Cluster)) (w : Worker) (t : Tenancy) : Worker :=
  { w with processor := { (f.turn w t).1 with random := (f.turn w t).2.2 } }

theorem wake_worker_eq (hw : f.workers.get? k = some w) (ht : f.locks.get? w.lock = some t) :
    f.wake (.worker k) =
      sweep { (f.turn w t).2.1 with workers := f.workers.put k (f.turned w t) } := by
  obtain ⟨l, ha⟩ := acts_carryOut f w.processor.random (w.processor.wake t.provider.session f.now)
  simp only [Fleet.wake, hw, ht, turn, turned]
  rw [← ha.workers_eq]

theorem wake_worker_of_none (hw : f.workers.get? k = none) : f.wake (.worker k) = f := by
  simp only [Fleet.wake, hw]

theorem wake_worker_of_lost (hw : f.workers.get? k = some w) (ht : f.locks.get? w.lock = none) :
    f.wake (.worker k) = f := by
  simp only [Fleet.wake, hw, ht]

theorem workers_wake_heartbeat (f : Fleet (Faulty Cluster)) (k : Nat) :
    (f.wake (.heartbeat k)).workers = f.workers := by
  simp only [Fleet.wake]
  split
  · rfl
  · split_ifs <;> rfl

theorem workers_wake_lock (f : Fleet (Faulty Cluster)) (k : Nat) :
    (f.wake (.lock k)).workers = f.workers := by
  cases hl : f.locks.get? k with
  | none => rw [wake_lock_of_none hl]
  | some t =>
    obtain ⟨id, l, g, htick, heq⟩ := wake_lock_eq hl
    rw [heq, ← htick.acts.workers_eq]

inductive Scene.Works (s : Scene) (k : Nat) : Worker → Prop
  | woken (hm : s.move = .wake (.worker k)) {w t} (hw : s.before.workers.get? k = some w)
      (ht : s.before.locks.get? w.lock = some t) : Works s k (s.before.turned w t)
  | signalled {change} (hm : s.move = .signalWorker k change) {w}
      (hw : s.before.workers.get? k = some w) :
      Works s k { w with processor := { w.processor with signal := change w.processor.signal } }
  | started {lock processor} (hm : s.move = .startWorker lock processor)
      (hk : k = s.before.admitted) : Works s k { processor, lock }

theorem Scene.workers_cases (s : Scene) : s.after.workers = s.before.workers ∨
    (∃ k, s.move = .dismissWorker k ∧ s.after.workers = s.before.workers.erase k) ∨
      ∃ k w, s.Works k w ∧ s.after.workers = s.before.workers.put k w := by
  obtain ⟨f, m⟩ := s
  show (f.after m).workers = f.workers ∨ _
  cases m with
  | wake m =>
    cases m with
    | heartbeat k => exact .inl (workers_wake_heartbeat f k)
    | lock k => exact .inl (workers_wake_lock f k)
    | worker k =>
      cases hw : f.workers.get? k with
      | none => exact .inl (congrArg workers (wake_worker_of_none hw))
      | some w =>
        cases ht : f.locks.get? w.lock with
        | none => exact .inl (congrArg workers (wake_worker_of_lost hw ht))
        | some t =>
          exact .inr (.inr ⟨k, _, .woken rfl hw ht, congrArg workers (wake_worker_eq hw ht)⟩)
  | startWorker lock processor => exact .inr (.inr ⟨_, _, .started rfl rfl, rfl⟩)
  | signalWorker k change =>
    cases hw : f.workers.get? k with
    | none => exact .inl (by rw [Fleet.after, Fleet.signalWorker, hw])
    | some w =>
      refine .inr (.inr ⟨k, _, .signalled rfl hw, ?_⟩)
      simp only [Scene.after, Fleet.after, Fleet.signalWorker, hw]
  | dismissWorker k => exact .inr (.inl ⟨k, rfl, rfl⟩)
  | openLock ttl =>
    rcases openLock_cases f ttl with ⟨e, -, heq⟩ | ⟨id, -, heq⟩
    · exact .inl (by rw [Fleet.after, heq]; rfl)
    · exact .inl (by rw [Fleet.after, heq]; rfl)
  | dropLock k =>
    simp only [Fleet.after, Fleet.dropLock]
    split <;> exact .inl rfl
  | closeLock k =>
    simp only [Fleet.after, Fleet.closeLock]
    split <;> exact .inl rfl
  | signalHeartbeat k change =>
    simp only [Fleet.after, Fleet.signalHeartbeat]
    split <;> exact .inl rfl
  | _ => exact .inl rfl

theorem Scene.get?_workers (hn : n ≠ s.before.admitted) (ha : s.actor? ≠ some (.worker n))
    (hs : ∀ change, s.move ≠ .signalWorker n change) (hd : s.move ≠ .dismissWorker n) :
    s.after.workers.get? n = s.before.workers.get? n := by
  rcases s.workers_cases with heq | ⟨k, hm, heq⟩ | ⟨k, w, hworks, heq⟩
  · rw [heq]
  · rw [heq, Table.get?_erase, if_neg]
    rintro rfl
    exact hd hm
  · rw [heq, Table.get?_put, if_neg]
    rintro rfl
    cases hworks with
    | woken hm => exact ha (by rw [Scene.actor?, hm])
    | signalled hm => exact hs _ hm
    | started hm hk => exact hn hk

/-- All that ticks waits longer than a tick may be late, so it ticks but once at an instant. -/
structure Paced (f : Fleet (Faulty Cluster)) : Prop where
  heartbeats_unique : f.heartbeats.Unique
  heartbeats : ∀ n beat, f.heartbeats.get? n = some beat → Ticker.slack < beat.ticker.period
  locks_unique : f.locks.Unique
  locks : ∀ n t, f.locks.get? n = some t → Ticker.slack < t.provider.ticker.period
  workers_unique : f.workers.Unique

theorem Paced.after (hp : Paced s.before) : Paced s.after where
  heartbeats_unique := by
    rcases s.heartbeats_cases with heq | ⟨k, beat, -, heq⟩
    · exact heq ▸ hp.heartbeats_unique
    · exact heq ▸ hp.heartbeats_unique.put k beat
  heartbeats := by
    intro n beat hb
    rcases Scene.heartbeat_of hb with hb | hchange
    · exact hp.heartbeats n beat hb
    · cases hchange with
      | woken hm hb₀ =>
        rw [Heartbeat.period_next_wake]
        exact hp.heartbeats n _ hb₀
      | @signalled _ hm beat₀ hb₀ => exact hp.heartbeats n beat₀ hb₀
      | started hm hk => exact lt_of_lt_of_le (by decide) (le_max_right _ _)
  locks_unique := Scene.unique_after hp.locks_unique
  locks := by
    intro n t ht
    rcases Scene.tenancy_of hp.locks_unique ht with ⟨-, -, t₀, ht₀, heq⟩ |
      ⟨-, t₀, _, _, ht₀, -, -, heq⟩ | ⟨-, ttl, id, -, -, -, -, -, heq⟩
    · rw [heq]
      exact hp.locks n t₀ ht₀
    · rw [heq, Ticker.period_advance]
      exact hp.locks n t₀ ht₀
    · rw [heq]
      exact lt_of_lt_of_le (by decide) (le_max_right _ _)
  workers_unique := by
    rcases s.workers_cases with heq | ⟨k, -, heq⟩ | ⟨k, w, -, heq⟩
    · exact heq ▸ hp.workers_unique
    · exact heq ▸ hp.workers_unique.filter _
    · exact heq ▸ hp.workers_unique.put k w

theorem Paced.course (hp : Paced f) (c : Course f h g) : Paced g := by
  induction c with
  | stay => exact hp
  | go _ m _ ih => exact Paced.after (s := ⟨_, m⟩) ih

theorem paced_start (registry : Registry) : Paced (start registry) :=
  ⟨Table.unique_empty, nofun, Table.unique_empty, nofun, Table.unique_empty⟩

theorem Course.paced {registry : Registry} (c : Course (start registry) h f) : Paced f :=
  (paced_start registry).course c

end Fleet

end Rollcall
