import Rollcall.Proofs.Fleet.Guards
import Rollcall.Proofs.Fleet.Renewal

/-!
# After a release that failed

A release that fails leaves the key with its session. Nobody tells the renewal of that, so the
session lives on for as long as its provider renews it, and the key with it: it is freed just when
the session goes, and the time to live bounds this only once the renewals have stopped.
-/

namespace Rollcall.Fleet

variable {f g : Fleet (Faulty Cluster)} {h h' : List Scene} {registry : Registry} {key : String}
  {id : SessionId} {guard : LockGuard}

theorem took_append_of_not_acquired {l l' : List Happening}
    (hl : .called (.acquire key id) (.ok true) ∉ l') (ht : Took key id (l' ++ l)) :
    Took key id l := by
  induction l' with
  | nil => exact ht
  | cons x l' ih =>
    rw [List.mem_cons, not_or] at hl
    rcases took_cons.mp ht with hx | ⟨-, ht⟩
    · exact absurd hx.symm hl.1
    · exact ih hl.2 ht

theorem took_append_of_not_released {l l' : List Happening}
    (hl : .called (.release key id) (.ok ()) ∉ l') (ht : Took key id l) :
    Took key id (l' ++ l) := by
  induction l' with
  | nil => exact ht
  | cons x l' ih =>
    rw [List.mem_cons, not_or] at hl
    exact took_cons.mpr (.inr ⟨Ne.symm hl.1, ih hl.2⟩)

theorem past_append (h' h : List Scene) : past (h' ++ h) = past h' ++ past h :=
  List.flatMap_append

theorem Course.session_before (c : Course f h g) (hs : f.backend.behind.Sound)
    (hk : ∃ k ≤ f.backend.behind.created, id = Cluster.sessionId k)
    (hr : .called (.renewSession id) (.ok ()) ∉ past h) {v : Session}
    (hv : g.backend.session? id = some v) : f.backend.session? id = some v := by
  suffices hall : g.backend.behind.Sound ∧ f.backend.behind.created ≤ g.backend.behind.created ∧
      ∀ v, g.backend.session? id = some v → f.backend.session? id = some v from hall.2.2 v hv
  clear hv v
  induction c with
  | stay => exact ⟨hs, le_rfl, fun _ hv => hv⟩
  | @go h g c m hm ih =>
    rw [past_cons, List.mem_append, not_or] at hr
    obtain ⟨hsound, hcreated, hbefore⟩ := ih hr.2
    refine ⟨Scene.sound_after (s := ⟨g, m⟩) hsound, hcreated.trans (Scene.created_le ⟨g, m⟩),
      fun v hv => hbefore v ?_⟩
    rcases Scene.session_of (s := ⟨g, m⟩) hsound hv with ⟨ttl, hc, -⟩ | ⟨w, hw, rfl | ⟨hc, -⟩⟩
    · obtain ⟨k, hle, rfl⟩ := hk
      exact absurd hc (Scene.not_created ⟨k, hle.trans hcreated, rfl⟩ ttl)
    · exact hw
    · exact absurd hc hr.1

theorem Course.holder_of_not_acquired (c : Course (start registry) h f)
    (hheld : f.holder key = some id) (c' : Course f h' g)
    (ha : ∀ other, .called (.acquire key other) (.ok true) ∉ past h') {other : SessionId}
    (hother : g.holder key = some other) : other = id := by
  obtain ⟨htook, hl⟩ := (c.trans c').holder_iff_took.mp hother
  rw [past_append] at htook
  have htook := took_append_of_not_acquired (ha other) htook
  have hlived : f.Lives other := by
    by_contra hdead
    exact c'.not_lives c.ledger.sound (c.acquired_numbered htook.mem) hdead hl
  cases (c.holder_iff_took.mpr ⟨htook, hlived⟩).symm.trans hheld
  rfl

theorem Course.holder_of_not_released (c : Course (start registry) h f)
    (hheld : f.holder key = some id) (c' : Course f h' g)
    (hr : .called (.release key id) (.ok ()) ∉ past h') (hl : g.Lives id) :
    g.holder key = some id := by
  refine (c.trans c').holder_iff_took.mpr ⟨?_, hl⟩
  rw [past_append]
  exact took_append_of_not_released hr (c.holder_iff_took.mp hheld).1

/-- A key that nobody takes or releases is free just when the session that had it is gone. -/
theorem Course.holder_eq_none_iff (c : Course (start registry) h f)
    (hheld : f.holder key = some id) (c' : Course f h' g)
    (ha : ∀ other, .called (.acquire key other) (.ok true) ∉ past h')
    (hr : .called (.release key id) (.ok ()) ∉ past h') :
    g.holder key = none ↔ ¬ g.Lives id := by
  constructor
  · intro hnone hl
    cases hnone.symm.trans (c.holder_of_not_released hheld c' hr hl)
  · intro hdead
    rw [← Option.not_isSome_iff_eq_none, Option.isSome_iff_exists]
    rintro ⟨other, hother⟩
    obtain rfl := c.holder_of_not_acquired hheld c' ha hother
    exact hdead ((c.trans c').holder_iff_took.mp hother).2

theorem Course.holder_after_failed_release (c : Course (start registry) h f)
    (hheld : f.holder guard.key = some guard.session) {e : Error}
    (hfail : (f.callAll guard.release).1 = .error e) :
    (f.callAll guard.release).2.holder guard.key = some guard.session := by
  obtain ⟨htook, v, hv, hle⟩ := c.holder_iff_took.mp hheld
  refine (c.go (.call (.release guard.key guard.session)) trivial).holder_iff_took.mpr ⟨?_, ?_⟩
  · rw [past_cons, Scene.happenings_of_call rfl]
    refine took_cons.mpr (.inr ⟨?_, htook⟩)
    intro hreleased
    injection hreleased with _ hok
    cases hok.symm.trans hfail
  · obtain ⟨w, hw, -, hexpires⟩ := Faulty.exists_session_of_perform c.ledger.sound hv hle
      (c := .release guard.key guard.session) nofun
    refine ⟨w, hw, ?_⟩
    show f.now ≤ w.expires
    omega

/-- When the release of a guard has failed, and nobody releases or takes the key after that, the key
is free just when the session is gone. It is gone once its time to live has passed, if nobody renews
it. But a provider whose renewals run on time, no two of them failing in a row, keeps its session
and the key, however long it goes on. -/
theorem Course.holder_of_failed_release (c : Course (start registry) h f)
    (hheld : f.holder guard.key = some guard.session) {e : Error}
    (hfail : (f.callAll guard.release).1 = .error e)
    (c' : Course (f.callAll guard.release).2 h' g)
    (ha : ∀ other, .called (.acquire guard.key other) (.ok true) ∉ past h')
    (hr : .called (.release guard.key guard.session) (.ok ()) ∉ past h') :
    (g.holder guard.key = none ↔ ¬ g.Lives guard.session) ∧
    (.called (.renewSession guard.session) (.ok ()) ∉ past h' →
      (∀ v, f.backend.session? guard.session = some v → f.now + v.ttl < g.now) →
        g.holder guard.key = none) ∧
    ∀ n t t', f.locks.get? n = some t → t.provider.session = guard.session →
      g.locks.get? n = some t' → IsEvenTtl t'.provider.ttl →
      (∀ s ∈ h' ++ ⟨f, .call (.release guard.key guard.session)⟩ :: h,
        s.IsPunctual (.lock n) ∧ s.move.IsHonest ∧ ∀ t₀, s.before.locks.get? n = some t₀ →
          .called (.destroySession t₀.provider.session) (.ok ()) ∉ s.happenings) →
      NoTwoFail (deeds (h' ++ ⟨f, .call (.release guard.key guard.session)⟩ :: h) (.lock n)) →
        g.holder guard.key = some guard.session := by
  have c₁ := c.go (.call (.release guard.key guard.session)) trivial
  have hheld₁ := c.holder_after_failed_release hheld hfail
  have hfree := c₁.holder_eq_none_iff hheld₁ c' ha hr
  refine ⟨hfree, fun hrenew hlate => hfree.mpr ?_,
    fun n t t' ht hsession ht' httl hall hchain => ?_⟩
  · rintro ⟨w, hw, hlong⟩
    obtain ⟨htook, -⟩ := c.holder_iff_took.mp hheld
    have c₂ := (Course.stay.go (.call (.release guard.key guard.session)) trivial).trans c'
    have hnever : .called (.renewSession guard.session) (.ok ()) ∉
        past (h' ++ [⟨f, .call (.release guard.key guard.session)⟩]) := by
      rw [past_append, past_cons, Scene.happenings_of_call rfl]
      simpa [past] using hrenew
    have hw₀ := c₂.session_before c.ledger.sound (c.acquired_numbered htook.mem) hnever hw
    have hbound := c.ledger.expires_le _ _ hw₀
    have := hlate w hw₀
    omega
  · have whole := c₁.trans c'
    have hsecure := whole.secure (fun s hs => (hall s hs).1) (fun s hs => (hall s hs).2.1) ht' httl
      hchain fun s hs => (hall s hs).2.2
    have hsame := hsecure.same ⟨f, _⟩ (List.mem_append_right _ List.mem_cons_self) t ht
    have hon := whole.onTime (fun s hs => (hall s hs).1) ht' httl
    exact c₁.holder_of_not_released hheld₁ c' hr (hsession ▸ hsame ▸ hsecure.lives hon)

def releaseToFail : List Move :=
  [.inject ⟨.release, .unavailable "store", 1⟩, .call (.acquire "k" (Cluster.sessionId 1)),
    .openLock LockProvider.defaultTtl]

def failedRelease : Scene :=
  ⟨(start .standard).afterAll releaseToFail, .call (.release "k" (Cluster.sessionId 1))⟩

def unreleased : Fleet (Faulty Cluster) :=
  (((start .standard).afterAll releaseToFail).callAll firstGuard.release).2

def renewedOnAndOn : List Move :=
  [.pass (Duration.ofSecs 11), .wake (.lock 0), .pass (Duration.ofSecs 10), .wake (.lock 0),
    .pass (Duration.ofSecs 5)]

def droppedAtOnce : List Move := [.pass (Duration.ofSecs 11), .dropLock 0]

/-- A second after the time to live the key is still held if the provider was there to renew its
session, and free if it was dropped. -/
theorem held_or_free_after_failed_release :
    (unreleased.afterAll renewedOnAndOn).holder "k" = some (Cluster.sessionId 1) ∧
      (unreleased.afterAll droppedAtOnce).holder "k" = none := by
  have c := course_scenes (start .standard) releaseToFail (by decide +kernel)
  have c₁ := course_scenes unreleased renewedOnAndOn (by decide +kernel)
  have c₂ := course_scenes unreleased droppedAtOnce (by decide +kernel)
  have hheld : ((start .standard).afterAll releaseToFail).holder firstGuard.key =
      some firstGuard.session := by
    decide +kernel
  have hfail : (((start .standard).afterAll releaseToFail).callAll firstGuard.release).1 =
      .error (.unavailable "store") := rfl
  have hpast : past (unreleased.scenes renewedOnAndOn) =
      [.called (.renewSession (Cluster.sessionId 1)) (.ok ()),
        .called (.renewSession (Cluster.sessionId 1)) (.ok ())] := rfl
  have hpast' : past (unreleased.scenes droppedAtOnce) = [] := rfl
  have hdeeds : deeds (unreleased.scenes renewedOnAndOn ++ failedRelease ::
        (start .standard).scenes releaseToFail) (.lock 0) =
      [⟨Duration.ofSecs 10, .called (.renewSession (Cluster.sessionId 1)) (.ok ())⟩,
        ⟨Duration.ofSecs 5, .called (.renewSession (Cluster.sessionId 1)) (.ok ())⟩,
        ⟨0, .called (.createSession LockProvider.defaultTtl) (.ok (Cluster.sessionId 1))⟩] := rfl
  have hp : ∀ s ∈ unreleased.scenes renewedOnAndOn ++ failedRelease ::
      (start .standard).scenes releaseToFail, s.IsPunctual (.lock 0) := by
    decide +kernel
  have hh : ∀ s ∈ unreleased.scenes renewedOnAndOn ++ failedRelease ::
      (start .standard).scenes releaseToFail, s.move.IsHonest := by
    simp [renewedOnAndOn, failedRelease, releaseToFail, scenes, Move.IsHonest]
  have hspared : ∀ s ∈ unreleased.scenes renewedOnAndOn ++ failedRelease ::
      (start .standard).scenes releaseToFail, ∀ x ∈ s.happenings,
        x.kind? ≠ some .destroySession := by
    decide +kernel
  constructor
  · obtain ⟨-, -, hkeeps⟩ := c.holder_of_failed_release hheld hfail c₁ (by simp [hpast])
      (by simp [hpast])
    refine hkeeps 0 _ _ rfl rfl rfl ⟨by decide, by decide⟩ (fun s hs => ⟨hp s hs, hh s hs,
      fun t₀ _ hd => hspared s hs _ hd rfl⟩) ?_
    refine hdeeds ▸ .cons_cons ?_ (.cons_cons ?_ (.singleton _))
    · rintro ⟨⟨_, _, heq⟩, -⟩
      cases heq
    · rintro ⟨⟨_, _, heq⟩, -⟩
      cases heq
  · obtain ⟨-, hlapses, -⟩ := c.holder_of_failed_release hheld hfail c₂ (by simp [hpast'])
      (by simp [hpast'])
    refine hlapses (by simp [hpast']) fun v hv => ?_
    cases hv
    decide +kernel

/-- The time to live is no backstop: with the provider renewing its session as usual, and nobody
asking for the key again, it is still held when more than the time to live has passed. -/
theorem exists_held_after_failed_release :
    ∃ (f g : Fleet (Faulty Cluster)) (h h' : List Scene) (guard : LockGuard) (t : Tenancy),
      Course (start .standard) h f ∧ f.locks.get? 0 = some t ∧
      t.provider.session = guard.session ∧ f.holder guard.key = some guard.session ∧
      (f.callAll guard.release).1 = .error (.unavailable "store") ∧
      Course (f.callAll guard.release).2 h' g ∧ (∀ s ∈ h', s.IsPunctual (.lock 0)) ∧
      (∀ key other won, .called (.acquire key other) won ∉ past h') ∧
      f.now + t.provider.ttl < g.now ∧ g.holder guard.key ≠ none := by
  have hpast : past (unreleased.scenes renewedOnAndOn) =
      [.called (.renewSession (Cluster.sessionId 1)) (.ok ()),
        .called (.renewSession (Cluster.sessionId 1)) (.ok ())] := rfl
  exact ⟨(start .standard).afterAll releaseToFail, unreleased.afterAll renewedOnAndOn,
    (start .standard).scenes releaseToFail, unreleased.scenes renewedOnAndOn, firstGuard,
    { provider := .holding 0 LockProvider.defaultTtl (Cluster.sessionId 1) },
    course_scenes _ _ (by decide +kernel), rfl, rfl, by decide +kernel, rfl,
    course_scenes unreleased renewedOnAndOn (by decide +kernel), by decide +kernel,
    by simp [hpast], by decide +kernel, by decide +kernel⟩

end Rollcall.Fleet
