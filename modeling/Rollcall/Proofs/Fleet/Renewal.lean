import Rollcall.Proofs.Fleet.Fading
import Rollcall.Proofs.Fleet.Onward

/-!
# How many failed renewals a session survives

A provider whose renewals run on time survives isolated failures, and exactly those: two failures in
a row cost it the session.
-/

namespace Rollcall

def Happening.kind? : Happening → Option Call.Kind
  | .called c _ => some c.kind
  | .marked .. => none

namespace Fleet

variable {f g : Fleet (Faulty Cluster)} {h : List Scene} {n : Nat} {t : Tenancy}

theorem Course.tenancy_of_attendsTo (c : Course f h g) (hall : ∀ s ∈ h, s.AttendsTo (.lock n))
    (ht : f.locks.get? n = some t) :
    ∃ t', g.locks.get? n = some t' ∧ t'.provider.ttl = t.provider.ttl := by
  induction c with
  | stay => exact ⟨t, ht, rfl⟩
  | @go h g c m hm ih =>
    rw [List.forall_mem_cons] at hall
    obtain ⟨t₀, ht₀, httl⟩ := ih hall.2
    rcases hall.1.moves with rfl | ⟨target, rfl⟩
    · obtain ⟨id, l, g', -, heq⟩ := wake_lock_eq ht₀
      show ∃ t', (g.wake (.lock n)).locks.get? n = some t' ∧ _
      rw [heq]
      exact ⟨_, (Table.get?_put _ _ _ _).trans (if_pos rfl), httl⟩
    · exact ⟨t₀, ht₀, httl⟩

/-- That a provider is on time does not stop the clock: whatever has become of its renewals, there is
a course to any later instant on which it has been on time. -/
theorem Course.goes_on_renewing {registry : Registry} (c : Course (start registry) h f)
    (hp : ∀ s ∈ h, s.IsPunctual (.lock n)) (hh : ∀ s ∈ h, s.move.IsHonest)
    (ht : f.locks.get? n = some t) (httl : IsEvenTtl t.provider.ttl) {target : Nat}
    (hle : f.now ≤ target) :
    ∃ h' g t', Course (start registry) (h' ++ h) g ∧ g.now = target ∧
      (∀ s ∈ h' ++ h, s.IsPunctual (.lock n)) ∧ (∀ s ∈ h' ++ h, s.move.IsHonest) ∧
      g.locks.get? n = some t' ∧ t'.provider.ttl = t.provider.ttl := by
  have hdue : ∀ d ∈ f.duties, d.2 = .lock n → f.now ≤ Instant.ceilMilli d.1 := by
    rintro ⟨due, _⟩ hd rfl
    obtain ⟨t', ht', rfl⟩ := lock_of_mem_duties c.paced.locks_unique hd
    cases ht.symm.trans ht'
    exact (c.onTime hp ht httl).now_le
  obtain ⟨h', g, c', hnow, hall⟩ := exists_course_punctual (m := .lock n) c.paced nofun hdue hle
  obtain ⟨t', ht', httl'⟩ := c'.tenancy_of_attendsTo hall ht
  refine ⟨h', g, t', c.trans c', hnow,
    List.forall_mem_append.mpr ⟨fun s hs => (hall s hs).punctual, hp⟩,
    List.forall_mem_append.mpr ⟨fun s hs => ?_, hh⟩, ht', httl'⟩
  rcases (hall s hs).moves with hmove | ⟨target', hmove⟩
  · rw [hmove]
    trivial
  · rw [hmove]
    trivial

/-- Of a provider that ticks on time, and is never told falsely that its session is unknown, two
things hold. As long as no two renewals fail in a row and nobody destroys the session, it is the one
that the provider was opened with, is alive, and holds every key that it took and did not release.
And if the last two renewals failed, and nobody else renews the session, it has lapsed and holds no
key by the time the next renewal is due; it stays so until the first tick that no fault hits, which
replaces it by a session that is alive. -/
theorem Course.survives {registry : Registry} (c : Course (start registry) h f)
    (hp : ∀ s ∈ h, s.IsPunctual (.lock n)) (hh : ∀ s ∈ h, s.move.IsHonest)
    (ht : f.locks.get? n = some t) (httl : IsEvenTtl t.provider.ttl) :
    (NoTwoFail (deeds h (.lock n)) →
      (∀ s ∈ h, ∀ t₀, s.before.locks.get? n = some t₀ →
        .called (.destroySession t₀.provider.session) (.ok ()) ∉ s.happenings) →
      (∀ s ∈ h, ∀ t₀, s.before.locks.get? n = some t₀ →
        t₀.provider.session = t.provider.session) ∧
      f.Lives t.provider.session ∧
      ∀ key, Took key t.provider.session (past h) →
        f.holder key = some t.provider.session) ∧
    (∀ e e' l, deeds h (.lock n) = e :: e' :: l → e.FailsToRenew → e'.FailsToRenew →
      (∀ s ∈ h, s.actor? ≠ some (.lock n) → ∀ t₀, s.before.locks.get? n = some t₀ →
        .called (.renewSession t₀.provider.session) (.ok ()) ∉ s.happenings) →
      t.provider.ticker.due ≤ f.now →
      ¬ f.Lives t.provider.session ∧
      (∀ key, f.holder key ≠ some t.provider.session) ∧
      ∀ h' g, Course f h' g → (∀ s ∈ h', s.move.IsHonest) →
        (∀ s ∈ h', s.move = .wake (.lock n) →
          ¬ (s.before.backend.Spares .renewSession ∧ s.before.backend.Spares .createSession)) →
        ∀ t', g.locks.get? n = some t' →
          t'.provider.session = t.provider.session ∧
          (g.backend.Spares .renewSession → g.backend.Spares .createSession →
            ∃ t'', (g.wake (.lock n)).locks.get? n = some t'' ∧
              t''.provider.session ≠ t.provider.session ∧
              (g.wake (.lock n)).Lives t''.provider.session)) := by
  have ledger := c.ledger
  have hbackend := c.isHonest nofun hh
  constructor
  · intro hchain hd
    have hsecure := c.secure hp hh ht httl hchain hd
    have hlives := hsecure.lives (c.onTime hp ht httl)
    exact ⟨hsecure.same, hlives, fun key htook =>
      (holder_eq_some_iff ledger.sound).mpr ⟨hsecure.holds key htook, hlives⟩⟩
  · intro e e' l hdeeds hfails hfails' hr hdue
    have hfading := c.fading hp ht httl hr
    have hdead : ¬ f.Lives t.provider.session := by
      rintro ⟨v, hv, hle⟩
      have hlt := hfading.bound_two e e' l hdeeds hfails hfails' v hv
      omega
    refine ⟨hdead, fun key hheld => ?_, fun h' g c' hh' hhit t' ht' => ?_⟩
    · exact hdead ((holder_eq_some_iff ledger.sound).mp hheld).2
    · have hsame := c.eq_session_of_hit ht hbackend c' hh' hhit ht'
      refine ⟨hsame, fun hrenew hcreate => ?_⟩
      have ledger' := (c.trans c').ledger
      have hmade := ledger.current n t ht
      have hstays : ¬ (g.wake (.lock n)).Lives t.provider.session :=
        Scene.not_lives_after (s := ⟨g, .wake (.lock n)⟩) (Scene.now_eq_of_actor rfl).ge
          ledger'.sound (ledger'.numbered n _ (hmade.append h'))
          (c'.not_lives ledger.sound (ledger.numbered n _ hmade) hdead)
      obtain ⟨fresh, l', g', htick, heq⟩ := wake_lock_eq ht'
      obtain ⟨v, hv, hle⟩ := htick.lives ledger'.sound hrenew hcreate
      rw [heq] at hstays ⊢
      refine ⟨_, (Table.get?_put _ _ _ _).trans (if_pos rfl), ?_, v, hv, hle⟩
      intro heq
      exact hstays ⟨v, heq ▸ hv, hle⟩

def oneFailure : List Move :=
  [.wake (.lock 0), .pass (Duration.ofSecs 1), .wake (.lock 0), .pass (Duration.ofMillis 500),
    .inject ⟨.renewSession, .unavailable "store", 1⟩, .call (.acquire "k" (Cluster.sessionId 1)),
    .openLock (Duration.ofSecs 1)]

def twoFailures : List Move :=
  [.pass (Duration.ofMillis 2500), .wake (.lock 0), .pass (Duration.ofSecs 2), .wake (.lock 0),
    .pass (Duration.ofMillis 1500), .inject ⟨.renewSession, .unavailable "store", 2⟩] ++ oneFailure

/-- The session that survives a failure still has its key. After two more failures the key is free,
and the next tick brings another session. -/
theorem survives_one_failure_not_two :
    ∃ f g, f = (start .standard).afterAll oneFailure ∧
      g = (start .standard).afterAll twoFailures ∧
      f.Lives (Cluster.sessionId 1) ∧ f.holder "k" = some (Cluster.sessionId 1) ∧
      g.holder "k" ≠ some (Cluster.sessionId 1) ∧
      (g.wake (.lock 0)).lockSession 0 = some (Cluster.sessionId 2) ∧
      (g.wake (.lock 0)).Lives (Cluster.sessionId 2) := by
  have c := course_scenes (start .standard) oneFailure (by decide +kernel)
  have c' := course_scenes (start .standard) twoFailures (by decide +kernel)
  have hp : ∀ s ∈ (start .standard).scenes oneFailure, s.IsPunctual (.lock 0) := by
    decide +kernel
  have hp' : ∀ s ∈ (start .standard).scenes twoFailures, s.IsPunctual (.lock 0) := by
    decide +kernel
  have hh : ∀ s ∈ (start .standard).scenes oneFailure, s.move.IsHonest := by
    simp [oneFailure, scenes, Move.IsHonest, Error.kind]
  have hh' : ∀ s ∈ (start .standard).scenes twoFailures, s.move.IsHonest := by
    simp [twoFailures, oneFailure, scenes, Move.IsHonest, Error.kind]
  have hspared : ∀ s ∈ (start .standard).scenes oneFailure, ∀ x ∈ s.happenings,
      x.kind? ≠ some .destroySession := by
    decide +kernel
  have hown : ∀ s ∈ (start .standard).scenes twoFailures, s.actor? ≠ some (.lock 0) →
      ∀ x ∈ s.happenings, x.kind? ≠ some .renewSession := by
    decide +kernel
  have httl : IsEvenTtl (Duration.ofSecs 1) := ⟨by decide, by decide⟩
  have ht : ((start .standard).afterAll oneFailure).locks.get? 0 = some { provider :=
      ⟨Cluster.sessionId 1, Duration.ofSecs 1,
        ⟨Duration.ofMillis 500, Duration.ofMillis 1500⟩⟩ } := rfl
  have ht' : ((start .standard).afterAll twoFailures).locks.get? 0 = some { provider :=
      ⟨Cluster.sessionId 1, Duration.ofSecs 1,
        ⟨Duration.ofMillis 500, Duration.ofMillis 2500⟩⟩ } := rfl
  have hpast : past ((start .standard).scenes oneFailure) =
      [.called (.renewSession (Cluster.sessionId 1)) (.ok ()),
        .called (.renewSession (Cluster.sessionId 1)) (.error (.unavailable "store"))] ++
      .called (.acquire "k" (Cluster.sessionId 1)) (.ok true) ::
      [.called (.createSession (Duration.ofSecs 1)) (.ok (Cluster.sessionId 1))] := rfl
  have hdeeds : NoTwoFail (deeds ((start .standard).scenes oneFailure) (.lock 0)) := by
    refine .cons_cons ?_ (.cons_cons ?_ (.singleton _))
    · rintro ⟨⟨_, _, heq⟩, -⟩
      cases heq
    · rintro ⟨-, _, _, heq⟩
      cases heq
  obtain ⟨-, hlives, hholds⟩ := (c.survives hp hh ht httl).1 hdeeds
    fun s hs t₀ _ hd => hspared s hs _ hd rfl
  obtain ⟨-, hfreed, hreplaced⟩ := (c'.survives hp' hh' ht' httl).2 _ _ _ rfl ⟨_, _, rfl⟩
    ⟨_, _, rfl⟩ (fun s hs ha t₀ _ hr => hown s hs ha _ hr rfl) (by decide +kernel)
  obtain ⟨-, hfresh⟩ := hreplaced [] _ .stay (by simp) (by simp) _ ht'
  obtain ⟨t'', ht'', -, hlives'⟩ := hfresh rfl rfl
  cases ht''
  exact ⟨_, _, rfl, rfl, hlives, hholds "k" ⟨_, _, hpast, by simp⟩, hfreed "k", rfl, hlives'⟩

end Fleet

end Rollcall
