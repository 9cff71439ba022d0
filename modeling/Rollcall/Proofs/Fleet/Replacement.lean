import Rollcall.Proofs.Fleet.Ledger

/-!
# How a provider replaces a lost session

A session is lost when somebody destroys it or when it lapses. Its provider learns of that from a
renewal that is answered with the error that the session is unknown, and makes another session. As
long as no answer says so falsely, the session that is given up is dead, and stays dead: a provider
never has two sessions that are alive.
-/

namespace Rollcall

/-- No renewal is made to fail as if the session were unknown. -/
def Faulty.IsHonest (b : Faulty Cluster) : Prop :=
  ∀ x ∈ b.pending, x.on = .renewSession → x.error.kind ≠ .notFound

namespace Fleet

/-- The move does not make renewals fail as if the session were unknown. -/
def Move.IsHonest : Move → Prop
  | .inject fault => fault.on = .renewSession → fault.error.kind ≠ .notFound
  | _ => True

/-- The provider is told that a session is unknown, and it is alive. -/
def Scene.Misinforms (s : Scene) (n : Nat) : Prop :=
  s.actor? = some (.lock n) ∧ ∃ id e, .called (.renewSession id) (.error e) ∈ s.happenings ∧
    e.kind = .notFound ∧ s.before.Lives id

variable {f g : Fleet (Faulty Cluster)} {h : List Scene} {s : Scene} {n : Nat} {id : SessionId}

theorem Scene.isHonest_after (hs : s.before.backend.IsHonest) (hm : s.move.IsHonest) :
    s.after.backend.IsHonest := by
  intro x hx hon
  obtain ⟨b, hu, -, hpending⟩ := s.undergoes
  rcases hpending x hx with hx | hmove
  · obtain ⟨y, hy, hsame, herror⟩ := hu.mem_pending hx
    exact herror ▸ hs y hy (hsame ▸ hon)
  · rw [hmove] at hm
    exact hm hon

theorem Course.isHonest (c : Course f h g) (hf : f.backend.IsHonest)
    (hh : ∀ s ∈ h, s.move.IsHonest) : g.backend.IsHonest := by
  induction c with
  | stay => exact hf
  | go _ m _ ih =>
    rw [List.forall_mem_cons] at hh
    exact Scene.isHonest_after (s := ⟨_, m⟩) (ih hh.2) hh.1

/-- It is the store that does not know the session, and no fault that says so. -/
theorem spares_of_unknown (hf : f.backend.IsHonest) {e : Error}
    (h : (f.perform (.renewSession id)).1 = .error e) (hkind : e.kind = .notFound) :
    f.backend.Spares .renewSession := by
  cases hn : (Fault.next .renewSession f.backend.pending).1 with
  | none => exact hn
  | some fault =>
    obtain ⟨x, hx, hon, herror⟩ := Fault.exists_of_next hn
    have heq : (f.perform (.renewSession id)).1 = .error fault := Faulty.perform_of_fault hn
    cases h.symm.trans heq
    exact absurd hkind (herror ▸ hf x hx hon)

theorem not_lives_of_unknown (hs : f.backend.behind.Sound) (hf : f.backend.IsHonest) {e : Error}
    (h : (f.perform (.renewSession id)).1 = .error e) (hkind : e.kind = .notFound) :
    ¬ f.Lives id := by
  have hgone := (Faulty.gone_of_not_renewed hs (spares_of_unknown hf h hkind) h).2
  rintro ⟨v, hv, hle⟩
  exact absurd (hgone v hv) (not_lt.mpr hle)

theorem Scene.not_misinforms (hs : s.before.backend.behind.Sound)
    (hf : s.before.backend.IsHonest) : ¬ s.Misinforms n := by
  rintro ⟨ha, id, e, he, hkind, hl⟩
  rcases actor_cases ha with ⟨-, heq⟩ | ⟨ttl, -, -, heq⟩ | ⟨-, t, fresh, g, -, htick⟩ |
    ⟨-, t, -, heq⟩
  · rw [heq] at he
    exact absurd he List.not_mem_nil
  · rw [heq, List.mem_singleton] at he
    cases he
  · obtain ⟨rfl, herror⟩ := htick.renewal he
    exact not_lives_of_unknown hs hf herror hkind hl
  · rw [heq, List.mem_singleton] at he
    cases he

theorem Course.not_misinforms {registry : Registry} (c : Course (start registry) h f)
    (hh : ∀ s ∈ h, s.move.IsHonest) : ∀ s ∈ h, ¬ s.Misinforms n := by
  induction c with
  | stay => exact nofun
  | @go h g c m _ ih =>
    rw [List.forall_mem_cons] at hh ⊢
    refine ⟨Scene.not_misinforms (s := ⟨g, m⟩) c.ledger.sound ?_, ih hh.2⟩
    exact c.isHonest nofun hh.2

theorem Ledger.made_of_after (hl : Ledger h s.before) {t : Tenancy}
    (ht : s.after.locks.get? n = some t) (hm : Made (s :: h) n id) :
    Made h n id ∨ id = t.provider.session := by
  rcases made_cons.mp hm with ⟨ha, ttl, hc⟩ | hm
  · refine .inr ?_
    rcases Scene.tenancy_of hl.unique ht with ⟨hwake, -, t₀, ht₀, -⟩ |
      ⟨-, t₀, fresh, g, -, htick, -, heq⟩ | ⟨-, ttl', fresh, -, -, hc', -, -, heq⟩
    · rcases Scene.created_of_actor ha hc with ⟨-, hn, -⟩ | ⟨hwake', -⟩
      · exact absurd (hl.admitted n t₀ ht₀) (by omega)
      · exact absurd hwake' hwake
    · rw [heq]
      exact (htick.created hc).2
    · rw [heq]
      rw [hc', List.mem_singleton] at hc
      cases hc
      rfl
  · exact .inl hm

/-- Of the sessions that a provider has made, only its current one may be alive. -/
theorem Course.eq_session {registry : Registry} (c : Course (start registry) h f)
    (hh : ∀ s ∈ h, ¬ s.Misinforms n) {t : Tenancy} (ht : f.locks.get? n = some t)
    (hm : Made h n id) (hl : f.Lives id) : id = t.provider.session := by
  induction c generalizing t with
  | stay => cases ht
  | @go h g c m hpossible ih =>
    have ledger := c.ledger
    rw [List.forall_mem_cons] at hh
    rcases Ledger.made_of_after (s := ⟨g, m⟩) ledger ht hm with hm | heq
    · have hbefore : g.Lives id := by
        by_contra hdead
        exact Scene.not_lives_after (s := ⟨g, m⟩) (Scene.now_le hpossible) ledger.sound
          (ledger.numbered n id hm) hdead hl
      rcases Scene.tenancy_of (s := ⟨g, m⟩) ledger.unique ht with ⟨-, -, t₀, ht₀, heq⟩ |
        ⟨hmove, t₀, fresh, g', ht₀, htick, -, heq⟩ | ⟨hn, -⟩
      · rw [heq]
        exact ih hh.2 ht₀ hm hbefore
      · rw [heq]
        have hsame := ih hh.2 ht₀ hm hbefore
        rcases htick.eq_or_replaced with hfresh | ⟨-, e, he, hkind⟩
        · exact hsame.trans hfresh.symm
        · exact absurd ⟨by rw [Scene.actor?, hmove], _, e, he, hkind, hsame ▸ hbefore⟩ hh.1
      · exact absurd (ledger.made_admitted n id hm) (by rw [hn]; exact lt_irrefl _)
    · exact heq

theorem lives_of_acquired (hs : f.backend.behind.Sound) {key : String}
    (h : (f.perform (.acquire key id)).1 = .ok true) : f.Lives id := by
  by_contra hdead
  have hgone : ∀ v, f.backend.session? id = some v → v.expires < f.now := fun v hv =>
    not_le.mp fun hle => hdead ⟨v, hv, hle⟩
  obtain ⟨e, he⟩ := Faulty.exists_error_of_gone hs hgone key
  cases (show (f.perform (.acquire key id)).1 = .error e from he).symm.trans h

theorem holder_of_acquired (hs : f.backend.behind.Sound) {key : String}
    (h : (f.perform (.acquire key id)).1 = .ok true) :
    (f.perform (.acquire key id)).2.holder key = some id := by
  obtain ⟨v, hv, hle⟩ := lives_of_acquired hs h
  rw [holder_eq_some_iff (Faulty.behind_sound_perform hs f.now (.acquire key id))]
  refine ⟨Faulty.holds_perform_acquire h, ?_⟩
  obtain ⟨w, hw, -, hexpires⟩ := Faulty.exists_session_of_perform hs hv hle
    (c := .acquire key id) nofun
  refine ⟨w, hw, ?_⟩
  show f.now ≤ w.expires
  omega

/-- A tick that no fault hits leaves the provider with a session that is alive. -/
theorem Tick.lives {p : LockProvider} {l : List Happening} (h : Tick f p id l g)
    (hs : f.backend.behind.Sound) (hrenew : f.backend.Spares .renewSession)
    (hcreate : f.backend.Spares .createSession) : g.Lives id := by
  cases h with
  | renewed h =>
    obtain ⟨v, -, -, hv⟩ := Faulty.session?_of_renewed hs h
    exact ⟨_, hv, Nat.le_add_right _ _⟩
  | failed h hkind => exact absurd (Faulty.gone_of_not_renewed hs hrenew h).1 hkind
  | bereft h hkind h' =>
    have hspares : (f.perform (.renewSession p.session)).2.backend.Spares .createSession :=
      (Faulty.spares_perform (c := .renewSession p.session) hrenew).mpr hcreate
    obtain ⟨id, hok⟩ := Faulty.created_of_spares hspares f.now p.ttl
    cases h'.symm.trans hok
  | replaced h hkind h' => exact ⟨_, Faulty.session?_of_created h', Nat.le_add_right _ _⟩

/-- However sessions are lost, a provider has at most one that is alive, and that is its current
one. A guard names the session that holds the key, nothing is locked with a session that is gone,
and the next tick that no fault hits brings another. -/
theorem Course.heals {registry : Registry} (c : Course (start registry) h f)
    (hh : ∀ s ∈ h, s.move.IsHonest) {t : Tenancy} (ht : f.locks.get? n = some t) :
    Made h n t.provider.session ∧
    (∀ id, Made h n id → f.Lives id → id = t.provider.session) ∧
    (∀ id key guard, Made h n id →
      (f.callAll (LockProvider.acquire key id)).1 = .ok (some guard) →
        guard = ⟨key, t.provider.session⟩ ∧
          (f.callAll (LockProvider.acquire key id)).2.holder key = some guard.session) ∧
    (¬ f.Lives t.provider.session → ∀ id key, Made h n id →
      ∃ e, (f.callAll (LockProvider.acquire key id)).1 = .error e) ∧
    (f.backend.Spares .renewSession → f.backend.Spares .createSession →
      ∃ t', (f.wake (.lock n)).locks.get? n = some t' ∧
        (f.wake (.lock n)).Lives t'.provider.session) := by
  have ledger := c.ledger
  have hone : ∀ id, Made h n id → f.Lives id → id = t.provider.session := fun id =>
    c.eq_session (c.not_misinforms hh) ht
  have hacquire : ∀ key id, f.callAll (LockProvider.acquire key id) =
      (((f.perform (.acquire key id)).1 : Except Error Bool).map
        (fun won => if won then some ⟨key, id⟩ else none), (f.perform (.acquire key id)).2) :=
    fun _ _ => rfl
  refine ⟨ledger.current n t ht, hone, fun id key guard hm hg => ?_, fun hdead id key hm => ?_,
    fun hrenew hcreate => ?_⟩
  · rw [hacquire] at hg ⊢
    rcases hr : (f.perform (.acquire key id)).1 with e | _ | _
    · rw [hr] at hg
      cases hg
    · rw [hr] at hg
      cases hg
    · rw [hr] at hg
      cases hg
      have hsame := hone id hm (lives_of_acquired ledger.sound hr)
      exact ⟨by rw [hsame], holder_of_acquired ledger.sound hr⟩
  · have hgone : ∀ v, f.backend.session? id = some v → v.expires < f.now := by
      intro v hv
      by_contra hle
      have hl : f.Lives id := ⟨v, hv, not_lt.mp hle⟩
      exact hdead (hone id hm hl ▸ hl)
    obtain ⟨e, he⟩ := Faulty.exists_error_of_gone ledger.sound hgone key
    refine ⟨e, ?_⟩
    rw [hacquire, show (f.perform (.acquire key id)).1 = .error e from he]
    rfl
  · obtain ⟨fresh, l, g, htick, heq⟩ := wake_lock_eq ht
    obtain ⟨v, hv, hle⟩ := htick.lives ledger.sound hrenew hcreate
    rw [heq]
    exact ⟨_, (Table.get?_put _ _ _ _).trans (if_pos rfl), v, hv, hle⟩

def loss : List Move :=
  [.pass (Duration.ofSecs 10), .wake (.lock 0), .pass (Duration.ofSecs 5),
    .call (.destroySession (Cluster.sessionId 1)),
    .inject ⟨.createSession, .unavailable "store", 1⟩, .openLock LockProvider.defaultTtl]

/-- After the loss nothing can be locked until the second tick, which brings a new session. -/
theorem heals_after_loss :
    ∃ f, f = (start .standard).afterAll loss ∧
      (∃ e, (f.callAll (LockProvider.acquire "k" (Cluster.sessionId 1))).1 = .error e) ∧
      (f.wake (.lock 0)).lockSession 0 = some (Cluster.sessionId 2) ∧
      (f.wake (.lock 0)).Lives (Cluster.sessionId 2) ∧
      ((f.wake (.lock 0)).callAll (LockProvider.acquire "k" (Cluster.sessionId 2))).2.holder "k" =
        some (Cluster.sessionId 2) := by
  have c := course_scenes (start .standard) loss (by decide +kernel)
  have c' := course_scenes (start .standard) (.wake (.lock 0) :: loss) (by decide +kernel)
  have hh : ∀ s ∈ (start .standard).scenes (.wake (.lock 0) :: loss), s.move.IsHonest := by
    simp [loss, scenes, Move.IsHonest]
  have hsession : ((start .standard).afterAll loss).lockSession 0 = some (Cluster.sessionId 1) := by
    decide +kernel
  have hsession' : ((start .standard).afterAll (.wake (.lock 0) :: loss)).lockSession 0 =
      some (Cluster.sessionId 2) := by
    decide +kernel
  obtain ⟨t, ht, heq⟩ := Option.map_eq_some_iff.mp hsession
  obtain ⟨t', ht', heq'⟩ := Option.map_eq_some_iff.mp hsession'
  obtain ⟨hmade, -, -, hgone, htick⟩ := c.heals (fun s hs => hh s (List.mem_cons_of_mem _ hs)) ht
  obtain ⟨hmade', -, hguard, -⟩ := c'.heals hh ht'
  rw [heq] at hmade hgone
  rw [heq'] at hmade' hguard
  refine ⟨_, rfl, hgone ?_ _ "k" hmade, hsession', ?_, (hguard _ "k" _ hmade' rfl).2⟩
  · rintro ⟨v, hv, -⟩
    cases hv
  · obtain ⟨t'', ht'', hlives⟩ := htick (by decide +kernel) (by decide +kernel)
    cases ht''.symm.trans ht'
    exact heq' ▸ hlives

end Fleet

end Rollcall
