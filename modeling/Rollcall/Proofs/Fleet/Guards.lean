import Rollcall.Proofs.Fleet.Lapse

/-!
# What a guard is worth

The store knows which session holds a key, and nothing of guards. A session that is alive holds the
keys that it took and has not released since, whoever asked for either. So a guard proves that its
key is held only while no other guard of the same session for the same key is released: a provider
may take a key twice, and the first of the two guards to be released gives the key away.
-/

namespace Rollcall

theorem Took.mem {key : String} {id : SessionId} {l : List Happening} (h : Took key id l) :
    .called (.acquire key id) (.ok true) ∈ l := by
  obtain ⟨later, earlier, rfl, -⟩ := h
  exact List.mem_append_right _ List.mem_cons_self

/-- How many guards like this one were given out, less how many of them were released. -/
def LockGuard.outstanding (guard : LockGuard) : List Happening → Nat
  | [] => 0
  | .called (.acquire key id) (.ok true) :: l =>
    guard.outstanding l + if guard = ⟨key, id⟩ then 1 else 0
  | .called (.release key id) _ :: l =>
    guard.outstanding l - if guard = ⟨key, id⟩ then 1 else 0
  | _ :: l => guard.outstanding l

/-- A guard that is out, and never was one of two, is not undercut. -/
theorem LockGuard.took_of_outstanding {guard : LockGuard} {l : List Happening}
    (hone : ∀ earlier, earlier <:+ l → guard.outstanding earlier ≤ 1)
    (hout : 0 < guard.outstanding l) : Took guard.key guard.session l := by
  fun_induction LockGuard.outstanding guard l with
  | case1 => exact absurd hout (lt_irrefl 0)
  | case2 key id l ih =>
    rw [took_cons]
    by_cases heq : guard = ⟨key, id⟩
    · exact .inl (by rw [heq])
    · rw [if_neg heq] at hout
      exact .inr ⟨nofun, ih (fun _ hsuffix => hone _ (hsuffix.trans (List.suffix_cons _ l))) hout⟩
  | case3 key id outcome l ih =>
    have hle := hone l (List.suffix_cons _ l)
    by_cases heq : guard = ⟨key, id⟩
    · rw [if_pos heq] at hout
      omega
    · rw [if_neg heq] at hout
      refine took_cons.mpr (.inr ⟨?_, ih (fun _ hsuffix =>
        hone _ (hsuffix.trans (List.suffix_cons _ l))) hout⟩)
      intro hx
      injection hx with hcall
      cases hcall
      exact heq rfl
  | case4 x l hacquire hrelease ih =>
    refine took_cons.mpr (.inr ⟨?_, ih (fun _ hsuffix =>
      hone _ (hsuffix.trans (List.suffix_cons _ l))) hout⟩)
    rintro rfl
    exact hrelease _ _ _ rfl

namespace Faulty

variable {b b' : Faulty Cluster} {now : Nat} {c : Call} {id : SessionId} {key : String}
  {l past : List Happening}

theorem holder_of_perform (hs : b.behind.Sound) (hk : (Backend.perform b now c).2.Holds key id) :
    Happening.called c (Backend.perform b now c).1 = .called (.acquire key id) (.ok true) ∨
      Happening.called c (Backend.perform b now c).1 ≠ .called (.release key id) (.ok ()) ∧
        b.Holds key id := by
  rcases perform_cases b now c with ⟨e, -, hp⟩ | hp
  · rw [hp] at hk ⊢
    refine .inr ⟨fun heq => ?_, hk⟩
    injection heq with hc hout
    subst hc
    cases hout
  · rw [hp] at hk ⊢
    unfold Holds at hk ⊢
    rcases Cluster.locks_perform b.behind now c with ⟨hnone, hlocks⟩ | ⟨r, hr, hlocks⟩
    · simp only [hlocks] at hk
      refine .inr ⟨fun heq => ?_, hk⟩
      injection heq with hc
      subst hc
      cases hnone
    · simp only [hlocks] at hk
      rcases LockStore.holder_of_serve hs.wellFormed hk with ⟨rfl, hwon⟩ | ⟨hne, hk⟩
      · cases c <;> cases hr
        have hok : (b.behind.locks.acquire now key id).1 = .ok true := by injection hwon
        exact .inl (congrArg (Happening.called _) hok)
      · refine .inr ⟨fun heq => hne ?_, hk⟩
        injection heq with hc
        subst hc
        cases hr
        rfl

theorem Undergoes.took_of_holds (h : Undergoes now b l b') (hs : b.behind.Sound)
    (hpast : b.Holds key id → Took key id past) (hk : b'.Holds key id) :
    Took key id (l ++ past) := by
  induction h with
  | nothing => exact hpast hk
  | call h c ih =>
    rcases holder_of_perform (h.sound hs) hk with hwon | ⟨hkept, hk⟩
    · exact took_cons.mpr (.inl hwon)
    · exact took_cons.mpr (.inr ⟨hkept, ih hk⟩)
  | mark _ _ _ ih => exact took_cons.mpr (.inr ⟨nofun, ih hk⟩)

theorem Undergoes.holds_of_took (h : Undergoes now b l b') (hs : b.behind.Sound)
    (hknown : .called (.acquire key id) (.ok true) ∈ past →
      ∃ k ≤ b.behind.created, id = Cluster.sessionId k)
    (hpast : (∃ v, b.session? id = some v ∧ now ≤ v.expires) → Took key id past →
      b.Holds key id)
    (hl : ∃ v, b'.session? id = some v ∧ now ≤ v.expires) (ht : Took key id (l ++ past)) :
    b'.Holds key id := by
  induction h with
  | nothing => exact hpast hl ht
  | @call l b' h c ih =>
    obtain ⟨w, hw, hle⟩ := hl
    rcases took_cons.mp ht with hwon | ⟨hkept, ht⟩
    · cases c with
      | acquire key' other =>
        obtain ⟨rfl, rfl⟩ : key' = key ∧ other = id := by
          injection hwon with hc
          cases hc
          exact ⟨rfl, rfl⟩
        exact holds_perform_acquire (by injection hwon)
      | _ => cases hwon
    · rcases session_of_perform (h.sound hs) hw with ⟨ttl, hc, -⟩ | ⟨v, hv, hcase⟩
      · -- the session is new, so it has taken nothing before
        exfalso
        have hmem : .called (.acquire key id) (.ok true) ∈ l ++ past := ht.mem
        obtain ⟨k, hk, rfl⟩ : ∃ k ≤ b'.behind.created, id = Cluster.sessionId k := by
          rcases List.mem_append.mp hmem with hmem | hmem
          · exact h.acquired_numbered hs hmem
          · obtain ⟨k, hk, heq⟩ := hknown hmem
            exact ⟨k, hk.trans h.created_le, heq⟩
        have hnew := (Undergoes.one b' now c).numbered (List.mem_singleton.mpr hc.symm)
        obtain ⟨k', hlt, -, heq⟩ := hnew
        have := Cluster.sessionId_injective heq
        omega
      · have halive : now ≤ v.expires := by
          rcases hcase with rfl | ⟨-, halive, -⟩
          · exact hle
          · exact halive
        refine holds_of_perform (h.sound hs) hv halive (ih ⟨v, hv, halive⟩ ht) ?_ hkept
        intro hd
        cases c with
        | destroySession other =>
          obtain rfl : other = id := by
            injection hd with hc
            injection hc
          cases (session?_of_destroyed (by injection hd)).symm.trans hw
        | _ => cases hd
  | mark _ _ _ ih =>
    rcases took_cons.mp ht with hwon | ⟨-, ht⟩
    · cases hwon
    · exact ih hl ht

end Faulty

namespace Fleet

variable {f g : Fleet (Faulty Cluster)} {h : List Scene} {registry : Registry} {key : String}
  {id : SessionId}

theorem Scene.holds_after_iff {s : Scene} {b : Faulty Cluster}
    (hb : s.after.backend.behind = b.behind) : s.after.backend.Holds key id ↔ b.Holds key id := by
  unfold Faulty.Holds
  rw [hb]

theorem Course.took_of_holds (c : Course (start registry) h f) (hk : f.backend.Holds key id) :
    Took key id (past h) := by
  induction c with
  | stay => cases hk
  | @go h g c m hm ih =>
    obtain ⟨b, hu, hb, -⟩ := Scene.undergoes ⟨g, m⟩
    rw [past_cons]
    exact hu.took_of_holds c.ledger.sound ih ((Scene.holds_after_iff (s := ⟨g, m⟩) hb).mp hk)

theorem Course.holds_of_took (c : Course (start registry) h f) (hl : f.Lives id)
    (ht : Took key id (past h)) : f.backend.Holds key id := by
  induction c with
  | stay =>
    obtain ⟨v, hv, -⟩ := hl
    cases hv
  | @go h g c m hm ih =>
    obtain ⟨b, hu, hb, -⟩ := Scene.undergoes ⟨g, m⟩
    obtain ⟨v, hv, hle⟩ := hl
    have hnow : g.now ≤ v.expires := (Scene.now_le (s := ⟨g, m⟩) hm).trans hle
    have hv : b.session? id = some v := by
      unfold Faulty.session? at hv ⊢
      exact hb ▸ hv
    rw [past_cons] at ht
    exact (Scene.holds_after_iff (s := ⟨g, m⟩) hb).mpr
      (hu.holds_of_took c.ledger.sound c.acquired_numbered ih ⟨v, hv, hnow⟩ ht)

/-- The holder of a key is the session that is alive, took the key, and has not released it. -/
theorem Course.holder_iff_took (c : Course (start registry) h f) :
    f.holder key = some id ↔ Took key id (past h) ∧ f.Lives id := by
  rw [holder_eq_some_iff c.ledger.sound]
  constructor
  · rintro ⟨hk, hl⟩
    exact ⟨c.took_of_holds hk, hl⟩
  · rintro ⟨ht, hl⟩
    exact ⟨c.holds_of_took hl ht, hl⟩

theorem Course.not_acquired_of_held (c : Course (start registry) h f)
    (hk : f.holder key = some id) {other : SessionId} (hne : other ≠ id) :
    (f.perform (.acquire key other)).1 ≠ .ok true := by
  intro hwon
  obtain ⟨htook, v, hv, hle⟩ := c.holder_iff_took.mp hk
  have c' := c.go (.call (.acquire key other)) trivial
  have hlives : (f.after (.call (.acquire key other))).Lives id := by
    obtain ⟨w, hw, -, hexpires⟩ := Faulty.exists_session_of_perform c.ledger.sound hv hle
      (c := .acquire key other) nofun
    refine ⟨w, hw, ?_⟩
    show f.now ≤ w.expires
    omega
  have hkept : Took key id (past (⟨f, .call (.acquire key other)⟩ :: h)) := by
    rw [past_cons, Scene.happenings_of_acts (s := ⟨f, .call (.acquire key other)⟩)
      (acts_perform f (.acquire key other)) rfl]
    exact took_cons.mpr (.inr ⟨nofun, htook⟩)
  have hheld := c'.holder_iff_took.mpr ⟨hkept, hlives⟩
  have hwinner : (f.after (.call (.acquire key other))).holder key = some other :=
    holder_of_acquired c.ledger.sound hwon
  cases hwinner.symm.trans hheld
  exact hne rfl

/-- While the session of a guard is alive, it holds the key just if it has not released the key
since it last took it, be it by this guard or by another. So a guard that is out is good if there
never were two of its kind at a time. While the key is held nobody else gets it. -/
theorem Course.holder_of_guard (c : Course (start registry) h f) {guard : LockGuard}
    (hl : f.Lives guard.session) :
    (f.holder guard.key = some guard.session ↔ Took guard.key guard.session (past h)) ∧
    (0 < guard.outstanding (past h) →
      (∀ earlier, earlier <:+ past h → guard.outstanding earlier ≤ 1) →
        f.holder guard.key = some guard.session) ∧
    (f.holder guard.key = some guard.session → ∀ other, other ≠ guard.session → ∀ guard',
      (f.callAll (LockProvider.acquire guard.key other)).1 ≠ .ok (some guard')) := by
  refine ⟨?_, fun hout hone => ?_, fun hk other hne guard' hg => ?_⟩
  · rw [c.holder_iff_took, and_iff_left hl]
  · exact c.holder_iff_took.mpr ⟨guard.took_of_outstanding hone hout, hl⟩
  · have hlost := c.not_acquired_of_held hk hne
    have heq : (f.callAll (LockProvider.acquire guard.key other)).1 =
        ((f.perform (.acquire guard.key other)).1 : Except Error Bool).map
          (fun won => if won then some ⟨guard.key, other⟩ else none) := rfl
    rw [heq] at hg
    rcases hr : (f.perform (.acquire guard.key other)).1 with e | _ | _
    · rw [hr] at hg
      cases hg
    · rw [hr] at hg
      cases hg
    · exact hlost hr

def firstGuard : LockGuard := ⟨"k", Cluster.sessionId 1⟩

theorem holder_of_single_guard :
    0 < firstGuard.outstanding (past ((start .standard).scenes twoProviders)) ∧
      ((start .standard).afterAll twoProviders).holder "k" = some (Cluster.sessionId 1) := by
  have c := course_scenes (start .standard) twoProviders (by decide +kernel)
  have hl : ((start .standard).afterAll twoProviders).Lives (Cluster.sessionId 1) :=
    ⟨⟨LockProvider.defaultTtl, LockProvider.defaultTtl⟩, rfl, Nat.zero_le _⟩
  have hout : 0 < firstGuard.outstanding (past ((start .standard).scenes twoProviders)) := by
    decide +kernel
  have hone : ∀ earlier ∈ (past ((start .standard).scenes twoProviders)).tails,
      firstGuard.outstanding earlier ≤ 1 := by
    decide +kernel
  exact ⟨hout, (c.holder_of_guard hl).2.1 hout
    fun earlier hearlier => hone earlier ((List.mem_tails _ _).mpr hearlier)⟩

/-- The first provider takes the lock twice, and releases it by one of its two guards. -/
def twoGuards : List Move :=
  [.call (.release "k" (Cluster.sessionId 1)), .call (.acquire "k" (Cluster.sessionId 1))] ++
    twoProviders

/-- The guard that was not released proves nothing: its session is alive, and the other provider
gets the key. -/
theorem exists_guard_undercut :
    ∃ h f, Course (start .standard) h f ∧ 0 < firstGuard.outstanding (past h) ∧
      f.Lives firstGuard.session ∧ f.holder firstGuard.key ≠ some firstGuard.session ∧
      (f.callAll (LockProvider.acquire firstGuard.key (Cluster.sessionId 2))).1 =
        .ok (some ⟨firstGuard.key, Cluster.sessionId 2⟩) := by
  exact ⟨_, _, course_scenes (start .standard) twoGuards (by decide +kernel), by decide +kernel,
    ⟨⟨LockProvider.defaultTtl, LockProvider.defaultTtl⟩, rfl, Nat.zero_le _⟩, by decide +kernel,
    by decide +kernel⟩

end Fleet

end Rollcall
