import Rollcall.Proofs.Fleet.Run

/-!
# What holds of a fleet at every time

The session of each lock provider is alive and will be so until half its time to live after the next
renewal is due, so a renewal that is late by no more than that still finds it. No two providers have
one session and no two processors use one provider. A processor that is in the middle of its job
has a provider, and the provider's session holds the key. Every step of a run keeps all of this.
-/

namespace Rollcall

/-- A provider whose session is alive and will be renewed in time. -/
structure LockProvider.Kept (now : Nat) (b : Faulty Cluster) (p : LockProvider) : Prop where
  shortest_le : Fleet.shortestTtl ≤ p.ttl
  period_eq : p.ticker.period = p.ttl / 2
  due_le : p.ticker.due ≤ now + p.ttl / 2
  lasts : b.Lasts p.session p.ttl (max now (p.ticker.due + p.ttl / 2))

namespace Fleet

structure Sound (f : Fleet (Faulty Cluster)) : Prop where
  backend : f.backend.Sound
  locks_unique : f.locks.Unique
  workers_unique : f.workers.Unique
  lock : ∀ n l, f.locks.get? n = some l → n < f.admitted ∧ l.provider.Kept f.now f.backend
  apart : ∀ m n k l, f.locks.get? m = some k → f.locks.get? n = some l →
    k.provider.session = l.provider.session → m = n
  worker : ∀ n w, f.workers.get? n = some w → Work.KeepsOffLocks w.processor.job.plan ∧
    (w.processor.isAtWork = true → ∃ l, f.locks.get? w.lock = some l ∧
      w.processor.phase.Guards w.processor.settings.lockKey l.provider.session f.backend)
  alone : ∀ m n v w, f.workers.get? m = some v → f.workers.get? n = some w →
    v.processor.isFinished = false → w.processor.isFinished = false → v.lock = w.lock → m = n

end Fleet

namespace LockProvider

variable {now : Nat} {b b' : Faulty Cluster} {p : LockProvider}

theorem Kept.alive (h : p.Kept now b) : b.Lasts p.session p.ttl now :=
  h.lasts.mono (le_max_left _ _)

theorem Kept.keeps (h : p.Kept now b) {D R : Set SessionId} (hk : b.Keeps now D R b')
    (hD : p.session ∉ D) : p.Kept now b' := by
  refine ⟨h.shortest_le, h.period_eq, h.due_le, ?_⟩
  apply hk.lasts p.session p.ttl _ hD (le_max_left _ _) _ h.lasts
  have := h.due_le
  omega

theorem Kept.pass (h : p.Kept now b) {target : Nat} (hnow : now ≤ target)
    (htarget : target ≤ max now (p.ticker.due + p.ttl / 2)) : p.Kept target b := by
  refine ⟨h.shortest_le, h.period_eq, h.due_le.trans (by omega), h.lasts.mono ?_⟩
  exact max_le htarget (le_max_right _ _)

theorem kept_holding {session : SessionId} {ttl : Nat} (httl : Fleet.shortestTtl ≤ ttl)
    (hl : b.Lasts session ttl (now + ttl)) : (holding now ttl session).Kept now b := by
  have hperiod : renewalPeriod ttl = ttl / 2 := by
    unfold renewalPeriod shortestPeriod
    unfold Fleet.shortestTtl at httl
    simp only [Duration.ofMillis] at *
    omega
  refine ⟨httl, hperiod, ?_, hl.mono ?_⟩
  · show now + renewalPeriod ttl ≤ now + ttl / 2
    rw [hperiod]
  · show max now (now + renewalPeriod ttl + ttl / 2) ≤ now + ttl
    rw [hperiod]
    omega

theorem Kept.advance (h : p.Kept now b) (hdue : p.ticker.due ≤ now)
    (hl : b'.Lasts p.session p.ttl (now + p.ttl)) :
    Kept now b' { p with ticker := p.ticker.advance now } := by
  have hperiod := h.period_eq
  refine ⟨h.shortest_le, (Ticker.period_advance p.ticker now).trans hperiod, ?_, hl.mono ?_⟩
  · unfold Ticker.advance
    split <;> simp only <;> omega
  · unfold Ticker.advance
    split <;> simp only <;> omega

end LockProvider

namespace Processor

variable {b b' : Faulty Cluster} {now : Nat} {key : String} {session : SessionId} {ttl : Nat}

theorem Phase.Guards.keeps {phase : Phase} (h : phase.Guards key session b) {D R : Set SessionId}
    (hk : b.Keeps now D R b') (hD : session ∉ D) (hR : session ∉ R)
    (hl : b.Lasts session ttl now) : phase.Guards key session b' := by
  cases phase with
  | working guard rest resume deadline =>
    obtain ⟨hguard, hrest, hh⟩ := h
    exact ⟨hguard, hrest, hk.holds key session ttl hD hR hl hh⟩
  | _ => trivial

theorem guards_of_not_isAtWork {p : Processor} (h : p.isAtWork = false) :
    p.phase.Guards key session b := by
  cases hphase : p.phase with
  | working guard rest resume deadline => simp [isAtWork, hphase] at h
  | _ => trivial

theorem isFinished_of_isAtWork {p : Processor} (h : p.isAtWork = true) : p.isFinished = false := by
  cases hphase : p.phase with
  | working guard rest resume deadline => rw [isFinished, hphase]
  | _ => simp [isAtWork, hphase] at h

end Processor

namespace Fleet

variable {f g : Fleet (Faulty Cluster)}

theorem isInUse_iff (hu : f.workers.Unique) {n : Nat} :
    f.isInUse n = true ↔
      ∃ m w, f.workers.get? m = some w ∧ w.lock = n ∧ w.processor.isFinished = false := by
  simp only [isInUse, Table.values, List.any_map, List.any_eq_true, Function.comp,
    Bool.and_eq_true, decide_eq_true_eq, Bool.not_eq_true']
  constructor
  · rintro ⟨⟨m, w⟩, hmem, hw⟩
    exact ⟨m, w, hu.get?_of_mem hmem, hw⟩
  · rintro ⟨m, w, hget, hw⟩
    exact ⟨(m, w), Table.mem_entries_of_get? hget, hw⟩

/-- Calls that destroy no session of a provider, and release no key of one that is needed, keep
everything in order. -/
theorem Sound.keeps (h : f.Sound) {D R : Set SessionId} (hk : Keeps D R f g)
    (hD : ∀ n l, f.locks.get? n = some l → l.provider.session ∉ D)
    (hR : ∀ n w l, f.workers.get? n = some w → w.processor.isAtWork = true →
      f.locks.get? w.lock = some l → l.provider.session ∉ R) : g.Sound where
  backend := hk.backend.sound
  locks_unique := hk.locks_eq ▸ h.locks_unique
  workers_unique := hk.workers_eq ▸ h.workers_unique
  lock := by
    rw [hk.locks_eq, hk.admitted_eq, hk.now_eq]
    intro n l hl
    obtain ⟨hn, hkept⟩ := h.lock n l hl
    exact ⟨hn, hkept.keeps hk.backend (hD n l hl)⟩
  apart := hk.locks_eq ▸ h.apart
  worker := by
    rw [hk.locks_eq, hk.workers_eq]
    intro n w hw
    obtain ⟨hjob, hwork⟩ := h.worker n w hw
    refine ⟨hjob, fun hat => ?_⟩
    obtain ⟨l, hl, hguards⟩ := hwork hat
    exact ⟨l, hl, hguards.keeps hk.backend (hD _ l hl) (hR n w l hw hat hl)
      (h.lock _ l hl).2.alive⟩
  alone := hk.workers_eq ▸ h.alone

theorem Sound.keeps_empty (h : f.Sound) (hk : Keeps ∅ ∅ f g) : g.Sound :=
  h.keeps hk (fun _ _ _ => id) fun _ _ _ _ _ _ => id

theorem Sound.heartbeats (h : f.Sound) (heartbeats : Table Nat Heartbeat) :
    Sound { f with heartbeats } :=
  ⟨h.backend, h.locks_unique, h.workers_unique, h.lock, h.apart, h.worker, h.alone⟩

theorem Sound.enrol (h : f.Sound) : Sound { f with admitted := f.admitted + 1 } where
  backend := h.backend
  locks_unique := h.locks_unique
  workers_unique := h.workers_unique
  lock := by
    intro n l hl
    obtain ⟨hn, hkept⟩ := h.lock n l hl
    exact ⟨hn.trans (Nat.lt_succ_self _), hkept⟩
  apart := h.apart
  worker := h.worker
  alone := h.alone

theorem Sound.putLock (h : f.Sound) {n : Nat} {k l : Tenancy} (hk : f.locks.get? n = some k)
    (hsession : l.provider.session = k.provider.session)
    (hkept : l.provider.Kept f.now f.backend) :
    Sound { f with locks := f.locks.put n l } where
  backend := h.backend
  locks_unique := h.locks_unique.put n l
  workers_unique := h.workers_unique
  lock := by
    intro m t ht
    simp only [Table.get?_put] at ht
    split_ifs at ht with heq
    · subst heq
      cases ht
      exact ⟨(h.lock m k hk).1, hkept⟩
    · exact h.lock m t ht
  apart := by
    intro m m' t u ht hu hsame
    simp only [Table.get?_put] at ht hu
    split_ifs at ht hu with hm hm' hm'
    · exact hm.trans hm'.symm
    · cases ht
      exact hm.trans (h.apart n m' k u hk hu (hsession.symm.trans hsame))
    · cases hu
      exact (h.apart m n t k ht hk (hsame.trans hsession)).trans hm'.symm
    · exact h.apart m m' t u ht hu hsame
  worker := by
    intro m w hw
    obtain ⟨hjob, hwork⟩ := h.worker m w hw
    refine ⟨hjob, fun hat => ?_⟩
    obtain ⟨t, ht, hguards⟩ := hwork hat
    simp only [Table.get?_put]
    split_ifs with heq
    · rw [heq, hk] at ht
      cases ht
      exact ⟨l, rfl, hsession ▸ hguards⟩
    · exact ⟨t, ht, hguards⟩
  alone := h.alone

theorem Sound.addLock (h : f.Sound) {l : Tenancy} (hkept : l.provider.Kept f.now f.backend)
    (hnew : l.provider.session ∉ f.sessions) :
    Sound { f with locks := f.locks.put f.admitted l, admitted := f.admitted + 1 } where
  backend := h.backend
  locks_unique := h.locks_unique.put _ l
  workers_unique := h.workers_unique
  lock := by
    intro m t ht
    simp only [Table.get?_put] at ht
    split_ifs at ht with heq
    · cases ht
      exact ⟨heq ▸ Nat.lt_succ_self _, hkept⟩
    · obtain ⟨hm, hkept⟩ := h.lock m t ht
      exact ⟨hm.trans (Nat.lt_succ_self _), hkept⟩
  apart := by
    intro m m' t u ht hu hsame
    simp only [Table.get?_put] at ht hu
    split_ifs at ht hu with hm hm' hm'
    · exact hm.trans hm'.symm
    · cases ht
      exact absurd ⟨m', u, hu, hsame.symm⟩ hnew
    · cases hu
      exact absurd ⟨m, t, ht, hsame⟩ hnew
    · exact h.apart m m' t u ht hu hsame
  worker := by
    intro m w hw
    obtain ⟨hjob, hwork⟩ := h.worker m w hw
    refine ⟨hjob, fun hat => ?_⟩
    obtain ⟨t, ht, hguards⟩ := hwork hat
    have hne := (h.lock _ t ht).1.ne
    exact ⟨t, by simp [Table.get?_put, hne, ht], hguards⟩
  alone := h.alone

theorem Sound.filterLocks (h : f.Sound) {p : Nat → Tenancy → Bool}
    (hp : ∀ n l, f.isInUse n = true → p n l = true) :
    Sound { f with locks := f.locks.filter p } where
  backend := h.backend
  locks_unique := h.locks_unique.filter p
  workers_unique := h.workers_unique
  lock := by
    intro n l hl
    simp only [h.locks_unique.get?_filter, Option.filter_eq_some_iff] at hl
    exact h.lock n l hl.1
  apart := by
    intro m n k l hk hl
    simp only [h.locks_unique.get?_filter, Option.filter_eq_some_iff] at hk hl
    exact h.apart m n k l hk.1 hl.1
  worker := by
    intro m w hw
    obtain ⟨hjob, hwork⟩ := h.worker m w hw
    refine ⟨hjob, fun hat => ?_⟩
    obtain ⟨l, hl, hguards⟩ := hwork hat
    have huse := (isInUse_iff h.workers_unique).mpr
      ⟨m, w, hw, rfl, Processor.isFinished_of_isAtWork hat⟩
    refine ⟨l, ?_, hguards⟩
    simp only [h.locks_unique.get?_filter, Option.filter_eq_some_iff]
    exact ⟨hl, hp _ l huse⟩
  alone := h.alone

theorem Sound.eraseWorker (h : f.Sound) (n : Nat) :
    Sound { f with workers := f.workers.erase n } where
  backend := h.backend
  locks_unique := h.locks_unique
  workers_unique := h.workers_unique.filter _
  lock := h.lock
  apart := h.apart
  worker := by
    intro m w hw
    simp only [Table.get?_erase] at hw
    split_ifs at hw
    exact h.worker m w hw
  alone := by
    intro m m' v w hv hw
    simp only [Table.get?_erase] at hv hw
    split_ifs at hv hw
    exact h.alone m m' v w hv hw

theorem Sound.putWorker (h : f.Sound) {n : Nat} {w : Worker}
    (hjob : Work.KeepsOffLocks w.processor.job.plan)
    (hwork : w.processor.isAtWork = true → ∃ l, f.locks.get? w.lock = some l ∧
      w.processor.phase.Guards w.processor.settings.lockKey l.provider.session f.backend)
    (halone : ∀ m v, m ≠ n → f.workers.get? m = some v → v.processor.isFinished = false →
      w.processor.isFinished = false → v.lock ≠ w.lock) :
    Sound { f with workers := f.workers.put n w } where
  backend := h.backend
  locks_unique := h.locks_unique
  workers_unique := h.workers_unique.put n w
  lock := h.lock
  apart := h.apart
  worker := by
    intro m v hv
    simp only [Table.get?_put] at hv
    split_ifs at hv
    · cases hv
      exact ⟨hjob, hwork⟩
    · exact h.worker m v hv
  alone := by
    intro m m' u v hu hv hgoing hgoing' hsame
    simp only [Table.get?_put] at hu hv
    split_ifs at hu hv with hm hm' hm'
    · exact hm.trans hm'.symm
    · cases hu
      exact absurd hsame.symm (halone m' v hm' hv hgoing' hgoing)
    · cases hv
      exact absurd hsame (halone m u hm hu hgoing hgoing')
    · exact h.alone m m' u v hu hv hgoing hgoing' hsame

theorem Sound.turn (h : f.Sound) {n : Nat} {w : Worker} (hw : f.workers.get? n = some w)
    {l : Tenancy} (hl : f.locks.get? w.lock = some l) {q : Processor}
    (ht : Processor.Turn l.provider.session f g w.processor q) :
    Sound { g with workers := g.workers.put n { w with processor := q } } := by
  -- the others are looked at first: what this processor releases is not what they hold
  have hothers : Sound { g with workers := f.workers.erase n } := by
    have hk : Keeps ∅ {id | id = l.provider.session ∧ w.processor.isFinished = false}
        { f with workers := f.workers.erase n } { g with workers := f.workers.erase n } :=
      ⟨ht.keeps.now_eq, ht.keeps.locks_eq, rfl, ht.keeps.admitted_eq, ht.keeps.backend⟩
    refine (h.eraseWorker n).keeps hk (fun _ _ _ => id) ?_
    rintro m v k hv hat hk ⟨hsame, hgoing⟩
    simp only [Table.get?_erase] at hv
    split_ifs at hv with heq
    have hlock := h.apart v.lock w.lock k l hk hl hsame
    exact heq (h.alone m n v w hv hw (Processor.isFinished_of_isAtWork hat) hgoing hlock)
  have hput : Sound { g with workers := (f.workers.erase n).put n { w with processor := q } } := by
    refine hothers.putWorker ?_ (fun _ => ?_) fun m v hm hv hgoing hgoing' hsame => ?_
    · show Work.KeepsOffLocks q.job.plan
      rw [ht.job_eq]
      exact (h.worker n w hw).1
    · refine ⟨l, ht.keeps.locks_eq ▸ hl, ?_⟩
      show q.phase.Guards q.settings.lockKey _ _
      rw [ht.settings_eq]
      exact ht.guards
    · simp only [Table.get?_erase, hm, if_false] at hv
      have hbefore : w.processor.isFinished = false := by
        rw [← Bool.not_eq_true]
        intro hfinished
        rw [ht.isFinished hfinished] at hgoing'
        cases hgoing'
      exact hm (h.alone m n v w hv hw hgoing hbefore hsame)
  rwa [Table.put_erase, ← ht.keeps.workers_eq] at hput

theorem Sound.sweep (h : f.Sound) : f.sweep.Sound :=
  h.filterLocks fun n l hn => by rw [hn, Bool.or_true]

end Fleet

end Rollcall
