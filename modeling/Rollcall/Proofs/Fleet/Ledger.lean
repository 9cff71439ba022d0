import Rollcall.Proofs.Fleet.Tenancy

/-!
# The sessions that a provider has made

Over its life a provider may make several sessions, and the scenes tell which. They are its own: no
two providers have made the same session. They have the provider's time to live, so that without a
renewal none of them outlasts it, and a session that is not alive never comes to life again.
-/

namespace Rollcall.Fleet

/-- The store has the session, and it has not lapsed. -/
def Lives (f : Fleet (Faulty Cluster)) (id : SessionId) : Prop :=
  ∃ v, f.backend.session? id = some v ∧ f.now ≤ v.expires

/-- The session that the store gives as the holder of a key. -/
def holder (f : Fleet (Faulty Cluster)) (key : String) : Option SessionId :=
  (f.backend.behind.locks.holder f.now key).1

/-- The provider has created the session. -/
def Made (h : List Scene) (n : Nat) (id : SessionId) : Prop :=
  ∃ e ∈ deeds h (.lock n), ∃ ttl, e.happening = .called (.createSession ttl) (.ok id)

variable {f g : Fleet (Faulty Cluster)} {h : List Scene} {s : Scene} {m n : Nat} {id : SessionId}
  {v : Session}

theorem holder_eq_some_iff (hs : f.backend.behind.Sound) {key : String} :
    f.holder key = some id ↔ f.backend.Holds key id ∧ f.Lives id := by
  show (f.backend.behind.locks.reap f.now).holders.get? key = some id ↔ _
  rw [LockStore.get?_holders_reap hs.wellFormed, Option.filter_eq_some_iff, LockStore.isAlive_iff]
  rfl

theorem made_cons : Made (s :: h) n id ↔
    (s.actor? = some (.lock n) ∧ ∃ ttl, .called (.createSession ttl) (.ok id) ∈ s.happenings) ∨
      Made h n id := by
  by_cases hs : s.actor? = some (.lock n)
  · simp only [Made, deeds_cons_of_actor hs, List.mem_append, or_and_right, exists_or, hs, true_and,
      Scene.happenings, List.mem_map]
    refine or_congr_left ⟨?_, ?_⟩
    · rintro ⟨e, he, ttl, heq⟩
      exact ⟨ttl, e, he, heq⟩
    · rintro ⟨ttl, e, he, heq⟩
      exact ⟨e, he, ttl, heq⟩
  · simp only [Made, deeds_cons_of_ne hs, hs, false_and, false_or]

theorem made_iff : Made h n id ↔ ∃ s ∈ h, s.actor? = some (.lock n) ∧
    ∃ ttl, .called (.createSession ttl) (.ok id) ∈ s.happenings := by
  induction h with
  | nil => exact ⟨fun ⟨_, he, _⟩ => absurd he List.not_mem_nil, nofun⟩
  | cons s h ih => rw [made_cons, ih, List.exists_mem_cons_iff]

theorem Made.cons (hm : Made h n id) (s : Scene) : Made (s :: h) n id :=
  made_cons.mpr (.inr hm)

theorem Made.append (hm : Made h n id) (h' : List Scene) : Made (h' ++ h) n id := by
  induction h' with
  | nil => exact hm
  | cons s h' ih => exact ih.cons s

theorem Tick.created {p : LockProvider} {fresh : SessionId} {l : List Happening} {ttl : Nat}
    (h : Tick f p fresh l g) (hc : .called (.createSession ttl) (.ok id) ∈ l) :
    ttl = p.ttl ∧ id = fresh := by
  cases h with
  | renewed => simp at hc
  | failed => simp at hc
  | bereft =>
    simp only [List.mem_cons, List.not_mem_nil, or_false] at hc
    rcases hc with hc | hc
    · cases hc
    · cases hc
  | replaced =>
    simp only [List.mem_cons, List.not_mem_nil, or_false] at hc
    rcases hc with hc | hc
    · cases hc
      exact ⟨rfl, rfl⟩
    · cases hc

theorem Tick.renewal {p : LockProvider} {fresh : SessionId} {l : List Happening}
    (h : Tick f p fresh l g) {r : (Call.renewSession id).Outcome}
    (hr : .called (.renewSession id) r ∈ l) :
    id = p.session ∧ (f.perform (.renewSession id)).1 = r := by
  have hfirst : ∀ {r'}, (f.perform (.renewSession p.session)).1 = r' →
      Happening.called (.renewSession id) r = .called (.renewSession p.session) r' →
        id = p.session ∧ (f.perform (.renewSession id)).1 = r := by
    intro r' h heq
    cases heq
    exact ⟨rfl, h⟩
  cases h with
  | renewed h => exact hfirst h (List.mem_singleton.mp hr)
  | failed h => exact hfirst h (List.mem_singleton.mp hr)
  | bereft h =>
    rcases List.mem_cons.mp hr with hr | hr
    · cases hr
    · exact hfirst h (List.mem_singleton.mp hr)
  | replaced h =>
    rcases List.mem_cons.mp hr with hr | hr
    · cases hr
    · exact hfirst h (List.mem_singleton.mp hr)

/-- A tick stays with the session, unless it is told that the session is unknown. -/
theorem Tick.eq_or_replaced {p : LockProvider} {fresh : SessionId} {l : List Happening}
    (h : Tick f p fresh l g) :
    fresh = p.session ∨ .called (.createSession p.ttl) (.ok fresh) ∈ l ∧
      ∃ e, .called (.renewSession p.session) (.error e) ∈ l ∧ e.kind = .notFound := by
  cases h with
  | replaced h hkind =>
    exact .inr ⟨List.mem_cons_self, _, List.mem_cons_of_mem _ List.mem_cons_self, hkind⟩
  | _ => exact .inl rfl

namespace Scene

theorem sound_after (hs : s.before.backend.behind.Sound) : s.after.backend.behind.Sound := by
  obtain ⟨b, hu, hb, -⟩ := s.undergoes
  exact hb ▸ hu.sound hs

theorem created_le (s : Scene) :
    s.before.backend.behind.created ≤ s.after.backend.behind.created := by
  obtain ⟨b, hu, hb, -⟩ := s.undergoes
  exact hb ▸ hu.created_le

theorem numbered {ttl : Nat} (hc : .called (.createSession ttl) (.ok id) ∈ s.happenings) :
    ∃ k, s.before.backend.behind.created < k ∧ k ≤ s.after.backend.behind.created ∧
      id = Cluster.sessionId k := by
  obtain ⟨b, hu, hb, -⟩ := s.undergoes
  exact hb ▸ hu.numbered hc

theorem session_of (hs : s.before.backend.behind.Sound)
    (hv : s.after.backend.session? id = some v) :
    (∃ ttl, .called (.createSession ttl) (.ok id) ∈ s.happenings ∧ v = ⟨ttl, s.before.now + ttl⟩) ∨
      ∃ w, s.before.backend.session? id = some w ∧
        (v = w ∨ .called (.renewSession id) (.ok ()) ∈ s.happenings ∧
          s.before.now ≤ w.expires ∧ v = { w with expires := s.before.now + w.ttl }) := by
  obtain ⟨b, hu, hb, -⟩ := s.undergoes
  refine hu.session_of hs ?_
  unfold Faulty.session? at hv ⊢
  exact hb ▸ hv

theorem exists_session (hs : s.before.backend.behind.Sound)
    (hv : s.before.backend.session? id = some v) (hle : s.before.now ≤ v.expires)
    (hd : .called (.destroySession id) (.ok ()) ∉ s.happenings) :
    ∃ w, s.after.backend.session? id = some w ∧ w.ttl = v.ttl ∧
      (w.expires = v.expires ∨ w.expires = s.before.now + v.ttl) := by
  obtain ⟨b, hu, hb, -⟩ := s.undergoes
  unfold Faulty.session?
  exact hb ▸ hu.exists_session hs hv hle hd

theorem holds (hs : s.before.backend.behind.Sound)
    (hv : s.before.backend.session? id = some v) (hle : s.before.now ≤ v.expires)
    (hd : .called (.destroySession id) (.ok ()) ∉ s.happenings) {key : String}
    (hpast : Took key id (past h) → s.before.backend.Holds key id)
    (ht : Took key id (past (s :: h))) : s.after.backend.Holds key id := by
  obtain ⟨b, hu, hb, -⟩ := s.undergoes
  unfold Faulty.Holds
  exact hb ▸ hu.holds hs hv hle hd hpast (past_cons s h ▸ ht)

theorem acquired_numbered (hs : s.before.backend.behind.Sound) {key : String}
    (ha : .called (.acquire key id) (.ok true) ∈ s.happenings) :
    ∃ k ≤ s.after.backend.behind.created, id = Cluster.sessionId k := by
  obtain ⟨b, hu, hb, -⟩ := s.undergoes
  exact hb ▸ hu.acquired_numbered hs ha

theorem not_created (hk : ∃ k ≤ s.before.backend.behind.created, id = Cluster.sessionId k)
    (ttl : Nat) : .called (.createSession ttl) (.ok id) ∉ s.happenings := by
  intro hc
  obtain ⟨k, hle, rfl⟩ := hk
  obtain ⟨k', hlt, -, heq⟩ := numbered hc
  have := Cluster.sessionId_injective heq
  omega

theorem not_lives_after (hnow : s.before.now ≤ s.after.now)
    (hs : s.before.backend.behind.Sound)
    (hk : ∃ k ≤ s.before.backend.behind.created, id = Cluster.sessionId k)
    (hl : ¬ s.before.Lives id) : ¬ s.after.Lives id := by
  rintro ⟨v, hv, hle⟩
  rcases session_of hs hv with ⟨ttl, hc, -⟩ | ⟨w, hw, rfl | ⟨-, halive, -⟩⟩
  · exact not_created hk ttl hc
  · exact hl ⟨_, hw, hnow.trans hle⟩
  · exact hl ⟨w, hw, halive⟩

theorem created_of_actor (ha : s.actor? = some (.lock n)) {ttl : Nat}
    (hc : .called (.createSession ttl) (.ok id) ∈ s.happenings) :
    (s.move = .openLock ttl ∧ n = s.before.admitted ∧
      s.after.admitted = s.before.admitted + 1) ∨
    (s.move = .wake (.lock n) ∧ ∃ t fresh g, s.before.locks.get? n = some t ∧
      Tick s.before t.provider fresh s.happenings g ∧ ttl = t.provider.ttl ∧ id = fresh) := by
  rcases actor_cases ha with ⟨-, heq⟩ | ⟨ttl', hmove, hn, heq⟩ | ⟨hmove, t, fresh, g, ht, htick⟩ |
    ⟨-, t, -, heq⟩
  · rw [heq] at hc
    exact absurd hc List.not_mem_nil
  · rw [heq, List.mem_singleton] at hc
    have hcall : (.createSession ttl : Call) = .createSession ttl' := by injection hc
    cases hcall
    have hok : (s.before.perform (.createSession ttl)).1 = .ok id := by
      injection hc with _ hout
      exact hout.symm
    refine .inl ⟨hmove, hn, ?_⟩
    unfold after
    rw [hmove]
    rcases openLock_cases s.before ttl with ⟨e, herror, -⟩ | ⟨_, -, heq⟩
    · cases herror.symm.trans hok
    · rw [Fleet.after, heq]
  · exact .inr ⟨hmove, t, fresh, g, ht, htick, htick.created hc⟩
  · rw [heq, List.mem_singleton] at hc
    cases hc

end Scene

/-- What the scenes of a course tell about its providers and their sessions. -/
structure Ledger (h : List Scene) (f : Fleet (Faulty Cluster)) : Prop where
  sound : f.backend.behind.Sound
  unique : f.locks.Unique
  admitted : ∀ n t, f.locks.get? n = some t → n < f.admitted
  made_admitted : ∀ n id, Made h n id → n < f.admitted
  numbered : ∀ n id, Made h n id → ∃ k ≤ f.backend.behind.created, id = Cluster.sessionId k
  apart : ∀ m n id, Made h m id → Made h n id → m = n
  current : ∀ n t, f.locks.get? n = some t → Made h n t.provider.session
  ttl_eq : ∀ n t id v, f.locks.get? n = some t → Made h n id → f.backend.session? id = some v →
    v.ttl = t.provider.ttl
  expires_le : ∀ id v, f.backend.session? id = some v → v.expires ≤ f.now + v.ttl

namespace Ledger

variable {t : Tenancy}

theorem not_created (hl : Ledger h s.before) (hm : Made h n id) (ttl : Nat) :
    .called (.createSession ttl) (.ok id) ∉ s.happenings :=
  Scene.not_created (hl.numbered n id hm) ttl

theorem session_before (hl : Ledger h s.before) (hm : Made h n id)
    (hr : .called (.renewSession id) (.ok ()) ∉ s.happenings)
    (hv : s.after.backend.session? id = some v) : s.before.backend.session? id = some v := by
  rcases Scene.session_of hl.sound hv with ⟨ttl, hc, -⟩ | ⟨w, hw, rfl | ⟨hc, -⟩⟩
  · exact absurd hc (hl.not_created hm ttl)
  · exact hw
  · exact absurd hc hr

theorem admitted_after (hl : Ledger h s.before) (ht : s.after.locks.get? n = some t) :
    n < s.after.admitted := by
  have hle := s.admitted_le
  rcases Scene.tenancy_of hl.unique ht with ⟨-, -, t₀, ht₀, -⟩ |
    ⟨-, t₀, -, -, ht₀, -⟩ | ⟨hn, -, -, -, -, -, -, hnext, -⟩
  · exact (hl.admitted n t₀ ht₀).trans_le hle
  · exact (hl.admitted n t₀ ht₀).trans_le hle
  · omega

theorem made_admitted_after (hl : Ledger h s.before) (hm : Made (s :: h) n id) :
    n < s.after.admitted := by
  have hle := s.admitted_le
  rcases made_cons.mp hm with ⟨ha, ttl, hc⟩ | hm
  · rcases Scene.created_of_actor ha hc with ⟨-, hn, hnext⟩ | ⟨-, t, -, -, ht, -⟩
    · omega
    · exact (hl.admitted n t ht).trans_le hle
  · exact (hl.made_admitted n id hm).trans_le hle

theorem numbered_after (hl : Ledger h s.before) (hm : Made (s :: h) n id) :
    ∃ k ≤ s.after.backend.behind.created, id = Cluster.sessionId k := by
  rcases made_cons.mp hm with ⟨-, ttl, hc⟩ | hm
  · obtain ⟨k, -, hk, heq⟩ := Scene.numbered hc
    exact ⟨k, hk, heq⟩
  · obtain ⟨k, hk, heq⟩ := hl.numbered n id hm
    exact ⟨k, hk.trans s.created_le, heq⟩

theorem apart_after (hl : Ledger h s.before) {m : Nat} (hm : Made (s :: h) m id)
    (hn : Made (s :: h) n id) : m = n := by
  rcases made_cons.mp hm with ⟨ha, ttl, hc⟩ | hm
  · rcases made_cons.mp hn with ⟨ha', -⟩ | hn
    · simpa using ha.symm.trans ha'
    · exact absurd hc (hl.not_created hn ttl)
  · rcases made_cons.mp hn with ⟨-, ttl, hc⟩ | hn
    · exact absurd hc (hl.not_created hm ttl)
    · exact hl.apart m n id hm hn

theorem current_after (hl : Ledger h s.before) (ht : s.after.locks.get? n = some t) :
    Made (s :: h) n t.provider.session := by
  rcases Scene.tenancy_of hl.unique ht with ⟨-, -, t₀, ht₀, heq⟩ |
    ⟨hmove, t₀, fresh, g, ht₀, htick, -, heq⟩ | ⟨hn, ttl, fresh, hmove, -, hc, -, -, heq⟩
  · rw [heq]
    exact (hl.current n t₀ ht₀).cons s
  · rw [heq]
    have ha : s.actor? = some (.lock n) := by rw [Scene.actor?, hmove]
    rcases htick.eq_or_replaced with hsame | ⟨hc, -⟩
    · exact hsame ▸ (hl.current n t₀ ht₀).cons s
    · exact made_cons.mpr (.inl ⟨ha, _, hc⟩)
  · rw [heq]
    have ha : s.actor? = some (.lock n) := by rw [Scene.actor?, hmove, hn]
    exact made_cons.mpr (.inl ⟨ha, ttl, hc ▸ List.mem_singleton_self _⟩)

theorem tenancy_before (hl : Ledger h s.before) (ht : s.after.locks.get? n = some t) :
    (∃ t₀, s.before.locks.get? n = some t₀ ∧ t.provider.ttl = t₀.provider.ttl) ∨
      n = s.before.admitted ∧ s.move = .openLock t.provider.ttl := by
  rcases Scene.tenancy_of hl.unique ht with ⟨-, -, t₀, ht₀, heq⟩ |
    ⟨-, t₀, fresh, g, ht₀, -, -, heq⟩ | ⟨hn, ttl, fresh, hmove, -, -, -, -, heq⟩
  · exact .inl ⟨t₀, ht₀, by rw [heq]⟩
  · exact .inl ⟨t₀, ht₀, by rw [heq]⟩
  · exact .inr ⟨hn, by rw [hmove, heq]; rfl⟩

theorem ttl_of_created (hl : Ledger h s.before) (ht : s.after.locks.get? n = some t)
    (ha : s.actor? = some (.lock n)) {ttl : Nat}
    (hc : .called (.createSession ttl) (.ok id) ∈ s.happenings) : ttl = t.provider.ttl := by
  rcases hl.tenancy_before ht with ⟨t₀, ht₀, heq⟩ | ⟨hn, hmove⟩
  · rcases Scene.created_of_actor ha hc with ⟨-, hn, -⟩ | ⟨-, t₁, _, _, ht₁, -, httl, -⟩
    · exact absurd (hl.admitted n t₀ ht₀) (by omega)
    · cases ht₁.symm.trans ht₀
      exact httl.trans heq.symm
  · rcases Scene.created_of_actor ha hc with ⟨hmove', -⟩ | ⟨hmove', -⟩
    · cases hmove'.symm.trans hmove
      rfl
    · cases hmove'.symm.trans hmove

theorem ttl_eq_after (hl : Ledger h s.before) (ht : s.after.locks.get? n = some t)
    (hm : Made (s :: h) n id) (hv : s.after.backend.session? id = some v) :
    v.ttl = t.provider.ttl := by
  rcases Scene.session_of hl.sound hv with ⟨ttl, hc, rfl⟩ | ⟨w, hw, hcase⟩
  · rcases made_cons.mp hm with ⟨ha, -⟩ | hm
    · exact hl.ttl_of_created ht ha hc
    · exact absurd hc (hl.not_created hm ttl)
  · have hold : Made h n id := by
      rcases made_cons.mp hm with ⟨-, ttl, hc⟩ | hm
      · exact absurd hc (Scene.not_created (hl.sound.numbered id w hw) ttl)
      · exact hm
    have httl : w.ttl = t.provider.ttl := by
      rcases hl.tenancy_before ht with ⟨t₀, ht₀, heq⟩ | ⟨hn, -⟩
      · exact heq ▸ hl.ttl_eq n t₀ id w ht₀ hold hw
      · exact absurd (hl.made_admitted n id hold) (by omega)
    rcases hcase with rfl | ⟨-, -, rfl⟩
    · exact httl
    · exact httl

theorem expires_le_after (hl : Ledger h s.before) (hnow : s.before.now ≤ s.after.now)
    (hv : s.after.backend.session? id = some v) : v.expires ≤ s.after.now + v.ttl := by
  rcases Scene.session_of hl.sound hv with ⟨ttl, -, rfl⟩ | ⟨w, hw, rfl | ⟨-, -, rfl⟩⟩
  · exact Nat.add_le_add_right hnow _
  · exact (hl.expires_le id _ hw).trans (Nat.add_le_add_right hnow _)
  · exact Nat.add_le_add_right hnow _

theorem step (hl : Ledger h s.before) (hm : s.move.IsPossible s.before) :
    Ledger (s :: h) s.after where
  sound := Scene.sound_after hl.sound
  unique := Scene.unique_after hl.unique
  admitted := fun _ _ => hl.admitted_after
  made_admitted := fun _ _ => hl.made_admitted_after
  numbered := fun _ _ => hl.numbered_after
  apart := fun _ _ _ => hl.apart_after
  current := fun _ _ => hl.current_after
  ttl_eq := fun _ _ _ _ ht hn hv => hl.ttl_eq_after ht hn hv
  expires_le := fun _ _ => hl.expires_le_after (Scene.now_le hm)

end Ledger

theorem ledger_start (registry : Registry) : Ledger [] (start registry) where
  sound := (sound_start registry).backend.behind
  unique := Table.unique_empty
  admitted := nofun
  made_admitted := by rintro n id ⟨e, he, -⟩; cases he
  numbered := by rintro n id ⟨e, he, -⟩; cases he
  apart := by rintro m n id ⟨e, he, -⟩; cases he
  current := nofun
  ttl_eq := nofun
  expires_le := nofun

theorem Course.ledger {registry : Registry} (c : Course (start registry) h f) : Ledger h f := by
  induction c with
  | stay => exact ledger_start registry
  | go _ m hm ih => exact Ledger.step (s := ⟨_, m⟩) ih hm

theorem Course.admitted_of_mem {registry : Registry} (c : Course (start registry) h f) (hs : s ∈ h)
    {t : Tenancy} (ht : s.before.locks.get? n = some t) : n < f.admitted := by
  induction c with
  | stay => cases hs
  | @go h g c m hm ih =>
    have hle : g.admitted ≤ (g.after m).admitted := Scene.admitted_le ⟨g, m⟩
    rcases List.mem_cons.mp hs with rfl | hs
    · exact (c.ledger.admitted n t ht).trans_le hle
    · exact (ih hs).trans_le hle

/-- Only a session that was created has taken a key. -/
theorem Course.acquired_numbered {registry : Registry} (c : Course (start registry) h f)
    {key : String} (ha : .called (.acquire key id) (.ok true) ∈ past h) :
    ∃ k ≤ f.backend.behind.created, id = Cluster.sessionId k := by
  induction c with
  | stay => cases ha
  | @go h g c m hm ih =>
    rcases List.mem_append.mp (past_cons ⟨g, m⟩ h ▸ ha) with ha | ha
    · exact Scene.acquired_numbered c.ledger.sound ha
    · obtain ⟨k, hk, heq⟩ := ih ha
      exact ⟨k, hk.trans (Scene.created_le ⟨g, m⟩), heq⟩

/-- A session that is not alive stays so, whatever befalls the fleet. -/
theorem Course.not_lives {h' : List Scene} (c : Course f h' g) (hs : f.backend.behind.Sound)
    (hk : ∃ k ≤ f.backend.behind.created, id = Cluster.sessionId k) (hl : ¬ f.Lives id) :
    ¬ g.Lives id := by
  suffices hall : g.backend.behind.Sound ∧
      (∃ k ≤ g.backend.behind.created, id = Cluster.sessionId k) ∧ ¬ g.Lives id from hall.2.2
  induction c with
  | stay => exact ⟨hs, hk, hl⟩
  | @go h' g _ m hm ih =>
    obtain ⟨hs, ⟨k, hle, heq⟩, hl⟩ := ih
    have hcreated := Scene.created_le ⟨g, m⟩
    exact ⟨Scene.sound_after (s := ⟨g, m⟩) hs, ⟨k, hle.trans hcreated, heq⟩,
      Scene.not_lives_after (s := ⟨g, m⟩) (Scene.now_le hm) hs ⟨k, hle, heq⟩ hl⟩

end Rollcall.Fleet
