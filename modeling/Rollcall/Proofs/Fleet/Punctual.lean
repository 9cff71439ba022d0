import Rollcall.Proofs.Fleet.Ledger
import Rollcall.Proofs.Fleet.Schedule

/-!
# Ticks that run on time

A member is punctual if the clock stops for each of its duties, at the first whole millisecond at or
after the instant it is due, and the member acts at no other times. Such a tick is late by less than
a millisecond, which moves no grid: the renewals of a provider follow each other at half its time to
live, from its opening on, however many of them fail.
-/

namespace Rollcall

namespace Instant

variable {i j d : Nat}

theorem ceilMilli_lt (i : Nat) : ceilMilli i < i + Duration.ofMillis 1 := by
  simp only [ceilMilli, Duration.ofMillis]
  omega

theorem ceilMilli_of_dvd (h : Duration.ofMillis 1 ∣ i) : ceilMilli i = i := by
  obtain ⟨k, rfl⟩ := h
  simp only [ceilMilli, Duration.ofMillis]
  omega

theorem ceilMilli_add (i : Nat) (h : Duration.ofMillis 1 ∣ d) :
    ceilMilli (i + d) = ceilMilli i + d := by
  obtain ⟨k, rfl⟩ := h
  simp only [ceilMilli, Duration.ofMillis]
  omega

theorem eq_ceilMilli (h : Duration.ofMillis 1 ∣ j) (hle : i ≤ j) (hj : j ≤ ceilMilli i) :
    j = ceilMilli i := by
  obtain ⟨k, rfl⟩ := h
  simp only [ceilMilli, Duration.ofMillis] at *
  omega

end Instant

theorem Ticker.advance_of_le {t : Ticker} {now : Nat} (h : now ≤ Instant.ceilMilli t.due) :
    t.advance now = { t with due := t.due + t.period } := by
  have hlt := Instant.ceilMilli_lt t.due
  refine if_pos ?_
  simp only [slack, Duration.ofMillis] at *
  omega

/-- A time to live of whole milliseconds, in which a session is renewed twice. -/
structure IsEvenTtl (ttl : Nat) : Prop where
  shortest_le : Fleet.shortestTtl ≤ ttl
  millis : Duration.ofMillis 1 ∣ ttl

namespace IsEvenTtl

variable {ttl : Nat}

theorem period_eq (h : IsEvenTtl ttl) : LockProvider.renewalPeriod ttl = ttl / 2 := by
  have := h.shortest_le
  simp only [LockProvider.renewalPeriod, LockProvider.shortestPeriod, Fleet.shortestTtl,
    Duration.ofMillis] at *
  omega

theorem half_add_half (h : IsEvenTtl ttl) : ttl / 2 + ttl / 2 = ttl := by
  obtain ⟨k, hk⟩ := h.millis
  simp only [Duration.ofMillis] at hk
  omega

theorem millis_lt_half (h : IsEvenTtl ttl) : Duration.ofMillis 1 < ttl / 2 := by
  have := h.shortest_le
  simp only [Fleet.shortestTtl, Duration.ofMillis] at *
  omega

theorem ceilMilli_add_halves (h : IsEvenTtl ttl) (i : Nat) :
    Instant.ceilMilli (i + ttl / 2 + ttl / 2) = Instant.ceilMilli i + ttl := by
  rw [Nat.add_assoc, h.half_add_half, Instant.ceilMilli_add i h.millis]

end IsEvenTtl

/-- The next renewal is due on the grid, and the clock is not beyond it. -/
structure LockProvider.OnTime (p : LockProvider) (now : Nat) : Prop where
  period_eq : p.ticker.period = p.ttl / 2
  now_le : now ≤ Instant.ceilMilli p.ticker.due
  /-- The last tick, or the opening, does not lie ahead. -/
  le_now : Instant.ceilMilli (p.ticker.due + p.ttl / 2) ≤ now + p.ttl

namespace LockProvider

variable {p : LockProvider} {now : Nat}

theorem onTime_holding {ttl : Nat} (httl : IsEvenTtl ttl) (hnow : Duration.ofMillis 1 ∣ now)
    (session : SessionId) : (holding now ttl session).OnTime now where
  period_eq := httl.period_eq
  now_le := (Nat.le_add_right _ _).trans (Instant.le_ceilMilli _)
  le_now := by
    show Instant.ceilMilli (now + renewalPeriod ttl + ttl / 2) ≤ now + ttl
    rw [httl.period_eq, httl.ceilMilli_add_halves, Instant.ceilMilli_of_dvd hnow]

theorem OnTime.advance_eq (h : p.OnTime now) :
    p.ticker.advance now = { p.ticker with due := p.ticker.due + p.ttl / 2 } := by
  rw [Ticker.advance_of_le h.now_le]
  exact congrArg (fun d => { p.ticker with due := p.ticker.due + d }) h.period_eq

/-- A tick that runs on time leaves the grid where it is. -/
theorem OnTime.tick (h : p.OnTime now) (httl : IsEvenTtl p.ttl)
    (hnow : now = Instant.ceilMilli p.ticker.due) (session : SessionId) :
    OnTime { p with session, ticker := p.ticker.advance now } now := by
  rw [h.advance_eq]
  refine ⟨h.period_eq, h.now_le.trans ?_, ?_⟩
  · exact Fleet.ceilMilli_mono (Nat.le_add_right _ _)
  · show Instant.ceilMilli (p.ticker.due + p.ttl / 2 + p.ttl / 2) ≤ now + p.ttl
    rw [httl.ceilMilli_add_halves, ← hnow]

theorem OnTime.pass (h : p.OnTime now) {later : Nat} (hle : now ≤ later)
    (hlater : later ≤ max now (Instant.ceilMilli p.ticker.due)) : p.OnTime later where
  period_eq := h.period_eq
  now_le := hlater.trans (max_le h.now_le le_rfl)
  le_now := h.le_now.trans (Nat.add_le_add_right hle _)

end LockProvider

namespace Fleet

/-- The clock goes no further than to the millisecond at which a duty of the member is due. -/
def Move.StopsFor (f : Fleet (Faulty Cluster)) (m : Member) : Move → Prop
  | .pass target => ∀ d ∈ f.duties, d.2 = m → target ≤ max f.now (Instant.ceilMilli d.1)
  | _ => True

instance (f : Fleet (Faulty Cluster)) (m : Member) (move : Move) : Decidable (move.StopsFor f m) :=
  match move with
  | .pass target => inferInstanceAs
      (Decidable (∀ d ∈ f.duties, d.2 = m → target ≤ max f.now (Instant.ceilMilli d.1)))
  | .wake _ | .inject _ | .call _ | .startHeartbeat .. | .signalHeartbeat .. | .openLock _
  | .dropLock _ | .closeLock _ | .startWorker .. | .signalWorker .. | .dismissWorker _ =>
    .isTrue trivial

/-- The clock stops for each duty of the member, and the member acts only at whole milliseconds. -/
structure Scene.IsPunctual (s : Scene) (m : Member) : Prop where
  millis : s.actor? = some m → Duration.ofMillis 1 ∣ s.before.now
  stops : s.move.StopsFor s.before m

instance (s : Scene) (m : Member) : Decidable (s.IsPunctual m) :=
  decidable_of_iff ((s.actor? = some m → Duration.ofMillis 1 ∣ s.before.now) ∧
    s.move.StopsFor s.before m) ⟨fun h => ⟨h.1, h.2⟩, fun h => ⟨h.1, h.2⟩⟩

variable {f g : Fleet (Faulty Cluster)} {h : List Scene} {s : Scene} {n : Nat} {t : Tenancy}

theorem Scene.IsPunctual.le_of_pass {m : Member} (hp : s.IsPunctual m) {target due : Nat}
    (hpass : s.move = .pass target) (hdue : (due, m) ∈ s.before.duties) :
    target ≤ max s.before.now (Instant.ceilMilli due) := by
  have hstops := hp.stops
  simp only [hpass, Move.StopsFor] at hstops
  exact hstops (due, m) hdue rfl

theorem Ledger.actor_ne (hl : Ledger h s.before) (ht : s.before.locks.get? n = some t)
    (hw : s.move ≠ .wake (.lock n)) (hc : s.move ≠ .closeLock n) :
    s.actor? ≠ some (.lock n) := by
  intro ha
  rcases Scene.actor_cases ha with ⟨hnone, -⟩ | ⟨-, -, hn, -⟩ | ⟨hmove, -⟩ | ⟨hmove, -⟩
  · cases hnone.symm.trans ht
  · exact absurd (hl.admitted n t ht) (by omega)
  · exact hw hmove
  · exact hc hmove

theorem Scene.due_le (hl : Ledger h s.before) (hm : s.move.IsPossible s.before)
    (hmove : s.move = .wake (.lock n)) (ht : s.before.locks.get? n = some t) :
    t.provider.ticker.due ≤ s.before.now := by
  rw [hmove] at hm
  obtain ⟨⟨due, _⟩, hduty, hdue, rfl⟩ := hm
  obtain ⟨t', ht', rfl⟩ := due_of_mem_duties hl.unique hduty
  cases ht'.symm.trans ht
  exact hdue

theorem Scene.now_eq_due (hl : Ledger h s.before) (hm : s.move.IsPossible s.before)
    (hp : s.IsPunctual (.lock n)) (hmove : s.move = .wake (.lock n))
    (ht : s.before.locks.get? n = some t) (hon : t.provider.OnTime s.before.now) :
    s.before.now = Instant.ceilMilli t.provider.ticker.due := by
  have ha : s.actor? = some (.lock n) := by rw [Scene.actor?, hmove]
  exact Instant.eq_ceilMilli (hp.millis ha) (Scene.due_le hl hm hmove ht) hon.now_le

theorem Scene.now_eq_of_actor (ha : s.actor? = some (.lock n)) : s.after.now = s.before.now := by
  rcases s.now_cases with heq | hpass
  · exact heq
  · rw [Scene.actor?, hpass] at ha
    cases ha

theorem Course.onTime {registry : Registry} (c : Course (start registry) h f)
    (hp : ∀ s ∈ h, s.IsPunctual (.lock n)) (ht : f.locks.get? n = some t)
    (httl : IsEvenTtl t.provider.ttl) : t.provider.OnTime f.now := by
  induction c generalizing t with
  | stay => cases ht
  | @go h g c m hm ih =>
    have ledger := c.ledger
    rw [List.forall_mem_cons] at hp
    rcases Scene.tenancy_of (s := ⟨g, m⟩) ledger.unique ht with ⟨hw, hc, t₀, ht₀, heq⟩ |
      ⟨hmove, t₀, fresh, g', ht₀, -, -, heq⟩ | ⟨hn, ttl, fresh, hmove, -, -, -, -, heq⟩
    · rw [heq] at httl ⊢
      have hon := ih hp.2 ht₀ httl
      refine hon.pass (Scene.now_le (s := ⟨g, m⟩) hm) ?_
      rcases Scene.now_cases ⟨g, m⟩ with hnow | hpass
      · exact hnow.le.trans (le_max_left _ _)
      · exact hp.1.le_of_pass hpass (mem_duties_lock ht₀)
    · rw [heq] at httl ⊢
      have hon := ih hp.2 ht₀ httl
      have ha : (Scene.mk g m).actor? = some (.lock n) := by rw [Scene.actor?, hmove]
      rw [show (g.after m).now = g.now from Scene.now_eq_of_actor ha]
      exact hon.tick httl (Scene.now_eq_due ledger hm hp.1 hmove ht₀ hon) fresh
    · rw [heq] at httl ⊢
      have ha : (Scene.mk g m).actor? = some (.lock n) := by rw [Scene.actor?, hmove, hn]
      rw [show (g.after m).now = g.now from Scene.now_eq_of_actor ha]
      exact LockProvider.onTime_holding httl (hp.1.millis ha) fresh

end Fleet

end Rollcall
