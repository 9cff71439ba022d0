import Rollcall.Proofs.Fleet.Course
import Rollcall.Proofs.Fleet.Soundness

/-!
# What a scene means for a lock provider

Of all that may be done to a fleet, three things concern a given lock provider: it is opened, its
renewal ticks, and it goes. A tick renews the session, or fails to; if the store says that it does
not know the session, the provider asks for another one and changes over to it.
-/

namespace Rollcall.Fleet

/-- What a tick of the renewal comes to: the session afterwards, what happened, the latest first,
and the fleet after the calls. -/
inductive Tick (f : Fleet (Faulty Cluster)) (p : LockProvider) :
    SessionId → List Happening → Fleet (Faulty Cluster) → Prop
  | renewed (h : (f.perform (.renewSession p.session)).1 = .ok ()) :
      Tick f p p.session [.called (.renewSession p.session) (.ok ())]
        (f.perform (.renewSession p.session)).2
  | failed {e} (h : (f.perform (.renewSession p.session)).1 = .error e)
      (hkind : e.kind ≠ .notFound) :
      Tick f p p.session [.called (.renewSession p.session) (.error e)]
        (f.perform (.renewSession p.session)).2
  | bereft {e e'} (h : (f.perform (.renewSession p.session)).1 = .error e)
      (hkind : e.kind = .notFound)
      (h' : ((f.perform (.renewSession p.session)).2.perform (.createSession p.ttl)).1 =
        .error e') :
      Tick f p p.session [.called (.createSession p.ttl) (.error e'),
        .called (.renewSession p.session) (.error e)]
        ((f.perform (.renewSession p.session)).2.perform (.createSession p.ttl)).2
  | replaced {e id} (h : (f.perform (.renewSession p.session)).1 = .error e)
      (hkind : e.kind = .notFound)
      (h' : ((f.perform (.renewSession p.session)).2.perform (.createSession p.ttl)).1 = .ok id) :
      Tick f p id [.called (.createSession p.ttl) (.ok id),
        .called (.renewSession p.session) (.error e)]
        ((f.perform (.renewSession p.session)).2.perform (.createSession p.ttl)).2

variable {f g : Fleet (Faulty Cluster)} {p : LockProvider} {id : SessionId} {l : List Happening}
  {n : Nat}

theorem Tick.acts (h : Tick f p id l g) : Acts f l g := by
  have hrenew := acts_perform f (.renewSession p.session)
  cases h with
  | renewed h => exact h ▸ hrenew
  | failed h hkind => exact h ▸ hrenew
  | bereft h hkind h' =>
    have hboth := hrenew.trans (acts_perform _ (.createSession p.ttl))
    rw [h, h'] at hboth
    exact hboth
  | replaced h hkind h' =>
    have hboth := hrenew.trans (acts_perform _ (.createSession p.ttl))
    rw [h, h'] at hboth
    exact hboth

theorem tick_cases (f : Fleet (Faulty Cluster)) (p : LockProvider) : ∃ id l g, Tick f p id l g ∧
    f.callAll (p.tick f.now) =
      ({ p with session := id, ticker := p.ticker.advance f.now }, g) := by
  have hcall : ∀ k : SessionId → Plan Calls LockProvider,
      f.callAll ((LockProvider.renewSession p.session p.ttl).bind k) =
        match (f.perform (.renewSession p.session)).1 with
        | .ok () => (f.perform (.renewSession p.session)).2.callAll (k p.session)
        | .error e =>
          if e.kind = .notFound then
            match ((f.perform (.renewSession p.session)).2.perform (.createSession p.ttl)).1 with
            | .ok fresh =>
              ((f.perform (.renewSession p.session)).2.perform (.createSession p.ttl)).2.callAll
                (k fresh)
            | .error _ =>
              ((f.perform (.renewSession p.session)).2.perform (.createSession p.ttl)).2.callAll
                (k p.session)
          else (f.perform (.renewSession p.session)).2.callAll (k p.session) := by
    intro k
    simp only [LockProvider.renewSession, Plan.bind]
    rw [callAll_ask]
    rcases (f.perform (.renewSession p.session)).1 with e | u
    · simp only
      split_ifs
      · simp only [Plan.bind]
        rw [callAll_ask]
        rcases ((f.perform (.renewSession p.session)).2.perform (.createSession p.ttl)).1
          with e' | fresh
        · rfl
        · rfl
      · rfl
    · rfl
  unfold LockProvider.tick
  rw [hcall]
  rcases hr : (f.perform (.renewSession p.session)).1 with e | u
  · by_cases hkind : e.kind = .notFound
    · simp only [hkind, if_true]
      rcases hr' : ((f.perform (.renewSession p.session)).2.perform (.createSession p.ttl)).1
        with e' | fresh
      · exact ⟨_, _, _, .bereft hr hkind hr', rfl⟩
      · exact ⟨_, _, _, .replaced hr hkind hr', rfl⟩
    · simp only [hkind, if_false]
      exact ⟨_, _, _, .failed hr hkind, rfl⟩
  · exact ⟨_, _, _, .renewed hr, rfl⟩

theorem callAll_start (f : Fleet (Faulty Cluster)) (ttl : Nat) :
    f.callAll (LockProvider.start f.now ttl) =
      (((f.perform (.createSession ttl)).1 : Except Error SessionId).map
        (LockProvider.holding f.now ttl), (f.perform (.createSession ttl)).2) := rfl

theorem openLock_cases (f : Fleet (Faulty Cluster)) (ttl : Nat) :
    (∃ e, (f.perform (.createSession ttl)).1 = .error e ∧
      (f.openLock ttl).2 = (f.perform (.createSession ttl)).2) ∨
    ∃ id, (f.perform (.createSession ttl)).1 = .ok id ∧
      (f.openLock ttl).2 =
        { (f.perform (.createSession ttl)).2 with
          locks := f.locks.put f.admitted { provider := .holding f.now ttl id }
          admitted := f.admitted + 1 } := by
  unfold Fleet.openLock
  rw [callAll_start]
  rcases (f.perform (.createSession ttl)).1 with e | id
  · exact .inl ⟨e, rfl, rfl⟩
  · exact .inr ⟨id, rfl, rfl⟩

theorem openLock_fst (f : Fleet (Faulty Cluster)) (ttl : Nat) :
    (f.openLock ttl).1 = (f.perform (.createSession ttl)).1.map fun _ => f.admitted := by
  unfold Fleet.openLock
  rw [callAll_start]
  rcases (f.perform (.createSession ttl)).1 with e | id
  · rfl
  · rfl

theorem wake_lock_eq {t : Tenancy} (hl : f.locks.get? n = some t) :
    ∃ id l g, Tick f t.provider id l g ∧ f.wake (.lock n) =
      { g with locks := f.locks.put n { t with provider :=
        { t.provider with session := id, ticker := t.provider.ticker.advance f.now } } } := by
  obtain ⟨id, l, g, htick, hcall⟩ := tick_cases f t.provider
  refine ⟨id, l, g, htick, ?_⟩
  simp only [Fleet.wake, hl, hcall, htick.acts.locks_eq]

theorem wake_lock_of_none (hl : f.locks.get? n = none) : f.wake (.lock n) = f := by
  simp only [Fleet.wake, hl]

namespace Scene

variable {s : Scene}

theorem tick_of_wake {t : Tenancy} (hm : s.move = .wake (.lock n))
    (hl : s.before.locks.get? n = some t) :
    ∃ id g, Tick s.before t.provider id s.happenings g ∧ s.after.backend = g.backend ∧
      s.after.locks = s.before.locks.put n { t with provider :=
        { t.provider with session := id, ticker := t.provider.ticker.advance s.before.now } } := by
  obtain ⟨f, m⟩ := s
  cases hm
  obtain ⟨id, l, g, htick, heq⟩ := wake_lock_eq hl
  have hj : (f.wake (.lock n)).journal = g.journal := by rw [heq]
  have hb : (f.wake (.lock n)).backend = g.backend := by rw [heq]
  have hlocks : (f.wake (.lock n)).locks = f.locks.put n { t with provider :=
      { t.provider with session := id, ticker := t.provider.ticker.advance f.now } } := by
    rw [heq]
  refine ⟨id, g, ?_, hb, hlocks⟩
  rw [happenings_of_acts (s := ⟨f, .wake (.lock n)⟩) htick.acts hj]
  exact htick

theorem happenings_of_open {ttl : Nat} (hm : s.move = .openLock ttl) :
    s.happenings = [.called (.createSession ttl) (s.before.perform (.createSession ttl)).1] := by
  obtain ⟨f, m⟩ := s
  cases hm
  refine happenings_of_acts (s := ⟨f, .openLock ttl⟩) (acts_perform f (.createSession ttl)) ?_
  show (f.openLock ttl).2.journal = _
  rcases openLock_cases f ttl with ⟨e, -, heq⟩ | ⟨id, -, heq⟩
  · rw [heq]
  · rw [heq]

/-- A provider that makes calls for itself is opened, ticks, or is closed. -/
theorem actor_cases (ha : s.actor? = some (.lock n)) :
    (s.before.locks.get? n = none ∧ s.happenings = []) ∨
    (∃ ttl, s.move = .openLock ttl ∧ n = s.before.admitted ∧
      s.happenings = [.called (.createSession ttl) (s.before.perform (.createSession ttl)).1]) ∨
    (s.move = .wake (.lock n) ∧ ∃ t id g, s.before.locks.get? n = some t ∧
      Tick s.before t.provider id s.happenings g) ∨
    (s.move = .closeLock n ∧ ∃ t, s.before.locks.get? n = some t ∧
      s.happenings = [.called (.destroySession t.provider.session)
        (s.before.perform (.destroySession t.provider.session)).1]) := by
  obtain ⟨f, m⟩ := s
  cases m with
  | wake m =>
    obtain rfl : m = .lock n := by simpa [actor?] using ha
    cases hl : f.locks.get? n with
    | none =>
      have hj : (f.wake (.lock n)).journal = f.journal := by rw [wake_lock_of_none hl]
      exact .inl ⟨rfl, happenings_of_acts (s := ⟨f, .wake (.lock n)⟩) (.refl f) hj⟩
    | some t =>
      obtain ⟨id, g, htick, -⟩ := tick_of_wake (s := ⟨f, .wake (.lock n)⟩) rfl hl
      exact .inr (.inr (.inl ⟨rfl, t, id, g, rfl, htick⟩))
  | openLock ttl =>
    have hn : f.admitted = n := by simpa [actor?] using ha
    exact .inr (.inl ⟨ttl, rfl, hn.symm, happenings_of_open rfl⟩)
  | closeLock k =>
    obtain rfl : k = n := by simpa [actor?] using ha
    cases hl : f.locks.get? k with
    | none =>
      have hj : (f.closeLock k).2.journal = f.journal := by
        unfold Fleet.closeLock
        rw [hl]
      exact .inl ⟨rfl, happenings_of_acts (s := ⟨f, .closeLock k⟩) (.refl f) hj⟩
    | some t =>
      have hj : (f.closeLock k).2.journal =
          (f.perform (.destroySession t.provider.session)).2.journal := by
        unfold Fleet.closeLock
        rw [hl]
        rfl
      exact .inr (.inr (.inr ⟨rfl, t, rfl, happenings_of_acts (s := ⟨f, .closeLock k⟩)
        (acts_perform f (.destroySession t.provider.session)) hj⟩))
  | _ => simp [actor?] at ha

end Scene

theorem locks_wake_heartbeat (f : Fleet (Faulty Cluster)) (n : Nat) :
    (f.wake (.heartbeat n)).locks = f.locks := by
  simp only [Fleet.wake]
  split
  · rfl
  · split_ifs <;> rfl

theorem locks_wake_worker (hu : f.locks.Unique) (k : Nat) :
    (f.wake (.worker k)).locks.Unique ∧
      ∀ t, (f.wake (.worker k)).locks.get? n = some t → f.locks.get? n = some t := by
  simp only [Fleet.wake]
  split
  · exact ⟨hu, fun _ ht => ht⟩
  · next w _ =>
    split
    · exact ⟨hu, fun _ ht => ht⟩
    · next t _ =>
      obtain ⟨l, ha⟩ := acts_carryOut f w.processor.random
        (w.processor.wake t.provider.session f.now)
      rw [← ha.locks_eq] at hu ⊢
      exact ⟨hu.filter _, fun _ ht => hu.get?_of_filter ht⟩

theorem admitted_wake (f : Fleet (Faulty Cluster)) (m : Member) :
    (f.wake m).admitted = f.admitted := by
  cases m with
  | heartbeat n =>
    simp only [Fleet.wake]
    split
    · rfl
    · split_ifs <;> rfl
  | lock n =>
    cases hl : f.locks.get? n with
    | none => rw [wake_lock_of_none hl]
    | some t =>
      obtain ⟨id, l, g, htick, heq⟩ := wake_lock_eq hl
      rw [heq, ← htick.acts.admitted_eq]
  | worker n =>
    simp only [Fleet.wake]
    split
    · rfl
    · next w _ =>
      split
      · rfl
      · next t _ =>
        obtain ⟨l, ha⟩ := acts_carryOut f w.processor.random
          (w.processor.wake t.provider.session f.now)
        exact ha.admitted_eq

theorem locks_dropLock (f : Fleet (Faulty Cluster)) (n : Nat) :
    (f.dropLock n).locks = f.locks ∨ ∃ t p, f.locks.get? n = some t ∧
      (f.dropLock n).locks = (f.locks.put n { t with isHandled := false }).filter p := by
  unfold Fleet.dropLock
  cases hl : f.locks.get? n with
  | none => exact .inl rfl
  | some t => exact .inr ⟨t, fun k v => v.isHandled || f.isInUse k, rfl, rfl⟩

theorem locks_closeLock (f : Fleet (Faulty Cluster)) (n : Nat) :
    f.locks.get? n = none ∧ (f.closeLock n).2 = f ∨
      (f.closeLock n).2.locks = f.locks.erase n := by
  unfold Fleet.closeLock
  cases hl : f.locks.get? n with
  | none => exact .inl ⟨rfl, rfl⟩
  | some t => exact .inr rfl

theorem locks_signalHeartbeat (f : Fleet (Faulty Cluster)) (n : Nat) (change : Signal → Signal) :
    (f.signalHeartbeat n change).locks = f.locks := by
  unfold Fleet.signalHeartbeat
  split <;> rfl

theorem locks_signalWorker (f : Fleet (Faulty Cluster)) (n : Nat) (change : Signal → Signal) :
    (f.signalWorker n change).locks = f.locks := by
  unfold Fleet.signalWorker
  split <;> rfl

theorem provider_of_dropLock (hu : f.locks.Unique) {k : Nat} {t : Tenancy}
    (ht : (f.dropLock k).locks.get? n = some t) :
    ∃ t₀, f.locks.get? n = some t₀ ∧ t.provider = t₀.provider := by
  rcases locks_dropLock f k with heq | ⟨t₀, p, ht₀, heq⟩
  · exact ⟨t, heq ▸ ht, rfl⟩
  · rw [heq] at ht
    have hput := (hu.put k _).get?_of_filter ht
    rw [Table.get?_put] at hput
    split_ifs at hput with hk
    · cases hput
      exact ⟨t₀, hk ▸ ht₀, rfl⟩
    · exact ⟨t, hput, rfl⟩

theorem get?_of_closeLock {k : Nat} {t : Tenancy}
    (ht : (f.closeLock k).2.locks.get? n = some t) : n ≠ k ∧ f.locks.get? n = some t := by
  rcases locks_closeLock f k with ⟨hnone, heq⟩ | heq
  · rw [heq] at ht
    refine ⟨?_, ht⟩
    rintro rfl
    cases hnone.symm.trans ht
  · rw [heq, Table.get?_erase] at ht
    split_ifs at ht with hk
    exact ⟨hk, ht⟩

theorem get?_of_openLock {ttl : Nat} {t : Tenancy}
    (ht : (f.openLock ttl).2.locks.get? n = some t) :
    f.locks.get? n = some t ∨ n = f.admitted ∧ ∃ id, (f.perform (.createSession ttl)).1 = .ok id ∧
      (f.openLock ttl).2.backend = (f.perform (.createSession ttl)).2.backend ∧
        (f.openLock ttl).2.admitted = f.admitted + 1 ∧ t.provider = .holding f.now ttl id := by
  rcases openLock_cases f ttl with ⟨e, -, heq⟩ | ⟨id, hok, heq⟩
  · rw [heq] at ht
    exact .inl ht
  · rw [heq] at ht ⊢
    rw [Table.get?_put] at ht
    split_ifs at ht with hn
    · cases ht
      exact .inr ⟨hn, id, hok, rfl, rfl, rfl⟩
    · exact .inl ht

namespace Scene

variable {s : Scene}

theorem unique_after (hu : s.before.locks.Unique) : s.after.locks.Unique := by
  obtain ⟨f, m⟩ := s
  show (f.after m).locks.Unique
  cases m with
  | wake m =>
    cases m with
    | heartbeat n => exact (locks_wake_heartbeat f n).symm ▸ hu
    | worker n => exact (locks_wake_worker (n := n) hu n).1
    | lock n =>
      cases hl : f.locks.get? n with
      | none => exact (congrArg locks (wake_lock_of_none hl)).symm ▸ hu
      | some t =>
        obtain ⟨id, l, g, -, heq⟩ := wake_lock_eq hl
        exact (congrArg locks heq).symm ▸ hu.put n _
  | openLock ttl =>
    rcases openLock_cases f ttl with ⟨e, -, heq⟩ | ⟨id, -, heq⟩
    · exact (congrArg locks heq).symm ▸ hu
    · exact (congrArg locks heq).symm ▸ hu.put f.admitted _
  | dropLock n =>
    rcases locks_dropLock f n with heq | ⟨t, p, -, heq⟩
    · exact heq.symm ▸ hu
    · exact heq.symm ▸ (hu.put n _).filter p
  | closeLock n =>
    rcases locks_closeLock f n with ⟨-, heq⟩ | heq
    · exact (congrArg locks heq).symm ▸ hu
    · exact heq.symm ▸ hu.filter _
  | dismissWorker n => exact hu.filter _
  | signalHeartbeat n change => exact (locks_signalHeartbeat f n change).symm ▸ hu
  | signalWorker n change => exact (locks_signalWorker f n change).symm ▸ hu
  | _ => exact hu

theorem get?_of_wake_lock {k : Nat} {t : Tenancy} (hm : s.move = .wake (.lock k))
    (ht : s.after.locks.get? n = some t) :
    n ≠ k ∧ s.before.locks.get? n = some t ∨ n = k ∧ ∃ t₀ id g, s.before.locks.get? n = some t₀ ∧
      Tick s.before t₀.provider id s.happenings g ∧ s.after.backend = g.backend ∧
        t.provider = { t₀.provider with
          session := id, ticker := t₀.provider.ticker.advance s.before.now } := by
  cases hl : s.before.locks.get? k with
  | none =>
    rw [after, hm, Fleet.after, wake_lock_of_none hl] at ht
    refine .inl ⟨?_, ht⟩
    rintro rfl
    cases hl.symm.trans ht
  | some t₀ =>
    obtain ⟨id, g, htick, hb, hlocks⟩ := tick_of_wake hm hl
    rw [hlocks, Table.get?_put] at ht
    split_ifs at ht with hk
    · cases ht
      exact .inr ⟨hk, t₀, id, g, hk ▸ hl, htick, hb, rfl⟩
    · exact .inl ⟨hk, ht⟩

/-- A provider that is there after a scene was there before and is the same, or its renewal has
ticked, or it has been opened. -/
theorem tenancy_of (hu : s.before.locks.Unique) {t : Tenancy}
    (ht : s.after.locks.get? n = some t) :
    (s.move ≠ .wake (.lock n) ∧ s.move ≠ .closeLock n ∧
      ∃ t₀, s.before.locks.get? n = some t₀ ∧ t.provider = t₀.provider) ∨
    (s.move = .wake (.lock n) ∧ ∃ t₀ id g, s.before.locks.get? n = some t₀ ∧
      Tick s.before t₀.provider id s.happenings g ∧ s.after.backend = g.backend ∧
        t.provider = { t₀.provider with
          session := id, ticker := t₀.provider.ticker.advance s.before.now }) ∨
    (n = s.before.admitted ∧ ∃ ttl id, s.move = .openLock ttl ∧
      (s.before.perform (.createSession ttl)).1 = .ok id ∧
        s.happenings = [.called (.createSession ttl) (.ok id)] ∧
          s.after.backend = (s.before.perform (.createSession ttl)).2.backend ∧
            s.after.admitted = s.before.admitted + 1 ∧
              t.provider = .holding s.before.now ttl id) := by
  have hstay : ∀ {t}, s.move ≠ .wake (.lock n) → s.move ≠ .closeLock n →
      s.before.locks.get? n = some t → s.move ≠ .wake (.lock n) ∧ s.move ≠ .closeLock n ∧
        ∃ t₀, s.before.locks.get? n = some t₀ ∧ t.provider = t₀.provider :=
    fun hw hc ht => ⟨hw, hc, _, ht, rfl⟩
  obtain ⟨f, m⟩ := s
  cases m with
  | wake m =>
    cases m with
    | heartbeat k => exact .inl (hstay (by simp) (by simp) (locks_wake_heartbeat f k ▸ ht))
    | worker k => exact .inl (hstay (by simp) (by simp) ((locks_wake_worker hu k).2 t ht))
    | lock k =>
      rcases get?_of_wake_lock rfl ht with ⟨hn, ht⟩ | ⟨rfl, htick⟩
      · exact .inl (hstay (by simpa using hn.symm) (by simp) ht)
      · exact .inr (.inl ⟨rfl, htick⟩)
  | openLock ttl =>
    rcases get?_of_openLock ht with ht | ⟨hn, id, hok, hb, hnext, hp⟩
    · exact .inl (hstay (by simp) (by simp) ht)
    · refine .inr (.inr ⟨hn, ttl, id, rfl, hok, ?_, hb, hnext, hp⟩)
      rw [happenings_of_open (s := ⟨f, .openLock ttl⟩) rfl, hok]
  | dropLock k =>
    exact .inl ⟨by simp, by simp, provider_of_dropLock hu ht⟩
  | closeLock k =>
    obtain ⟨hn, ht⟩ := get?_of_closeLock ht
    exact .inl (hstay (by simp) (by simpa using hn.symm) ht)
  | dismissWorker k => exact .inl (hstay (by simp) (by simp) (hu.get?_of_filter ht))
  | signalHeartbeat k change =>
    exact .inl (hstay (by simp) (by simp) (locks_signalHeartbeat f k change ▸ ht))
  | signalWorker k change =>
    exact .inl (hstay (by simp) (by simp) (locks_signalWorker f k change ▸ ht))
  | pass target => exact .inl (hstay (by simp) (by simp) ht)
  | inject fault => exact .inl (hstay (by simp) (by simp) ht)
  | call c => exact .inl (hstay (by simp) (by simp) ht)
  | startHeartbeat id service period signal => exact .inl (hstay (by simp) (by simp) ht)
  | startWorker lock processor => exact .inl (hstay (by simp) (by simp) ht)

theorem admitted_le (s : Scene) : s.before.admitted ≤ s.after.admitted := by
  obtain ⟨f, m⟩ := s
  show f.admitted ≤ (f.after m).admitted
  cases m with
  | wake m => exact (admitted_wake f m).ge
  | openLock ttl =>
    rcases openLock_cases f ttl with ⟨e, -, heq⟩ | ⟨id, -, heq⟩
    · rw [Fleet.after, heq]
      exact le_rfl
    · rw [Fleet.after, heq]
      exact Nat.le_succ _
  | startHeartbeat id service period signal => exact Nat.le_succ _
  | startWorker lock processor => exact Nat.le_succ _
  | dropLock n =>
    simp only [Fleet.after, Fleet.dropLock]
    split <;> exact le_rfl
  | closeLock n =>
    simp only [Fleet.after, Fleet.closeLock]
    split <;> exact le_rfl
  | signalHeartbeat n change =>
    simp only [Fleet.after, Fleet.signalHeartbeat]
    split <;> exact le_rfl
  | signalWorker n change =>
    simp only [Fleet.after, Fleet.signalWorker]
    split <;> exact le_rfl
  | _ => exact le_rfl

end Scene

theorem Course.admitted_le {h : List Scene} (c : Course f h g) : f.admitted ≤ g.admitted := by
  induction c with
  | stay => exact le_rfl
  | go _ m _ ih => exact ih.trans (Scene.admitted_le ⟨_, m⟩)

end Rollcall.Fleet
