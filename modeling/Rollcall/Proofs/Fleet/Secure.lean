import Rollcall.Proofs.Fleet.Punctual
import Rollcall.Proofs.Fleet.Replacement

/-!
# Sessions that survive failed renewals

A session is renewed twice in its time to live. If one renewal fails, the next one comes just when
the session expires, and a session is still alive at that instant. So as long as no two renewals
fail in a row, a provider never loses its session, nor a key that the session has taken.
-/

namespace Rollcall

def Event.FailsToRenew (e : Event) : Prop :=
  ∃ id error, e.happening = .called (.renewSession id) (.error error)

/-- Nowhere do two failed renewals follow each other. -/
def NoTwoFail (l : List Event) : Prop := l.IsChain fun e e' => ¬ (e.FailsToRenew ∧ e'.FailsToRenew)

namespace Fleet

variable {f g : Fleet (Faulty Cluster)} {h : List Scene} {s : Scene} {n : Nat} {t : Tenancy}
  {p : LockProvider} {id : SessionId}

/-- The session outlasts the next renewal, and if the last one did not fail also the one after it.
It has been the provider's all along, and holds what it has taken. -/
structure Secure (h : List Scene) (f : Fleet (Faulty Cluster)) (n : Nat) (p : LockProvider) :
    Prop where
  lasts : ∃ v, f.backend.session? p.session = some v ∧ v.ttl = p.ttl ∧
    Instant.ceilMilli p.ticker.due ≤ v.expires ∧
      ((∀ e ∈ (deeds h (.lock n)).head?, ¬ e.FailsToRenew) →
        Instant.ceilMilli (p.ticker.due + p.ttl / 2) ≤ v.expires)
  same : ∀ s ∈ h, ∀ t, s.before.locks.get? n = some t → t.provider.session = p.session
  holds : ∀ key, Took key p.session (past h) → f.backend.Holds key p.session

theorem Secure.lives (hs : Secure h f n p) (hon : p.OnTime f.now) : f.Lives p.session := by
  obtain ⟨v, hv, -, hdue, -⟩ := hs.lasts
  exact ⟨v, hv, hon.now_le.trans hdue⟩

theorem Secure.same_cons (hs : Secure h s.before n p) (ht : s.before.locks.get? n = some t)
    (hsession : t.provider.session = p.session) :
    ∀ s' ∈ s :: h, ∀ t, s'.before.locks.get? n = some t → t.provider.session = p.session := by
  rw [List.forall_mem_cons]
  refine ⟨fun t' ht' => ?_, hs.same⟩
  cases ht'.symm.trans ht
  exact hsession

/-- Whatever others do, they can only prolong the session. -/
theorem Secure.stay (hl : Ledger h s.before) (hs : Secure h s.before n t.provider)
    (hon : t.provider.OnTime s.before.now) (ht : s.before.locks.get? n = some t)
    (ha : s.actor? ≠ some (.lock n))
    (hd : .called (.destroySession t.provider.session) (.ok ()) ∉ s.happenings) :
    Secure (s :: h) s.after n t.provider := by
  obtain ⟨v, hv, httl, hdue, hlong⟩ := hs.lasts
  have halive := hon.now_le.trans hdue
  obtain ⟨w, hw, hwttl, hexpires⟩ := Scene.exists_session hl.sound hv halive hd
  have hrenewed := hon.le_now
  have hmono : Instant.ceilMilli t.provider.ticker.due ≤
      Instant.ceilMilli (t.provider.ticker.due + t.provider.ttl / 2) :=
    ceilMilli_mono (Nat.le_add_right _ _)
  refine ⟨⟨w, hw, hwttl.trans httl, ?_, ?_⟩, hs.same_cons ht rfl, fun key =>
    Scene.holds hl.sound hv halive hd (hs.holds key)⟩
  · omega
  · rw [deeds_cons_of_ne ha]
    intro hhead
    have := hlong hhead
    omega

theorem exists_session_of_renewed (hs : f.backend.behind.Sound) (httl : IsEvenTtl p.ttl)
    (hnow : f.now = Instant.ceilMilli p.ticker.due) {v : Session}
    (hv : f.backend.session? p.session = some v) (hvttl : v.ttl = p.ttl)
    (hok : (f.perform (.renewSession p.session)).1 = .ok ()) :
    ∃ w, (f.perform (.renewSession p.session)).2.backend.session? p.session = some w ∧
      w.ttl = p.ttl ∧ Instant.ceilMilli (p.ticker.due + p.ttl / 2 + p.ttl / 2) ≤ w.expires := by
  obtain ⟨v', hv', -, hw⟩ := Faulty.session?_of_renewed hs hok
  cases hv.symm.trans hv'
  refine ⟨{ v with expires := f.now + v.ttl }, hw, hvttl, ?_⟩
  rw [httl.ceilMilli_add_halves, ← hnow, ← hvttl]

/-- A tick on time renews the session, or fails after one that did not. -/
theorem Secure.tick (hl : Ledger h s.before) (hhonest : s.before.backend.IsHonest)
    (hs : Secure h s.before n t.provider) (hon : t.provider.OnTime s.before.now)
    (httl : IsEvenTtl t.provider.ttl) (ht : s.before.locks.get? n = some t)
    (hmove : s.move = .wake (.lock n))
    (hnow : s.before.now = Instant.ceilMilli t.provider.ticker.due)
    (hchain : NoTwoFail (deeds (s :: h) (.lock n)))
    (hd : .called (.destroySession t.provider.session) (.ok ()) ∉ s.happenings)
    (htick : Tick s.before t.provider id s.happenings g) (hb : s.after.backend = g.backend) :
    Secure (s :: h) s.after n { t.provider with
      session := id, ticker := t.provider.ticker.advance s.before.now } := by
  have hlives := hs.lives hon
  obtain ⟨v, hv, hvttl, hdue, hlong⟩ := hs.lasts
  have halive := hon.now_le.trans hdue
  have ha : s.actor? = some (.lock n) := by rw [Scene.actor?, hmove]
  have hdeeds := deeds_cons_of_actor ha h
  rw [Scene.events_eq] at hdeeds
  have hholds : ∀ key, Took key t.provider.session (past (s :: h)) →
      s.after.backend.Holds key t.provider.session := fun key =>
    Scene.holds hl.sound hv halive hd (hs.holds key)
  have hknown : ∀ {e}, (s.before.perform (.renewSession t.provider.session)).1 = .error e →
      e.kind ≠ .notFound := fun he hkind => not_lives_of_unknown hl.sound hhonest he hkind hlives
  rw [hon.advance_eq]
  generalize hhappenings : s.happenings = l at htick hdeeds hd
  cases htick with
  | renewed hok =>
    obtain ⟨w, hw, hwttl, hlast⟩ := exists_session_of_renewed hl.sound httl hnow hv hvttl hok
    exact ⟨⟨w, hb ▸ hw, hwttl, (ceilMilli_mono (Nat.le_add_right _ _)).trans hlast, fun _ => hlast⟩,
      hs.same_cons ht rfl, hholds⟩
  | failed hfail hkind =>
    rw [hdeeds] at hchain
    have hlong := hlong fun e he hfails =>
      (List.isChain_cons.mp hchain).1 e he ⟨⟨_, _, rfl⟩, hfails⟩
    rw [← hhappenings] at hd
    obtain ⟨w, hw, hwttl, hexpires⟩ := Scene.exists_session hl.sound hv halive hd
    have hrenewed := hon.le_now
    refine ⟨⟨w, hw, hwttl.trans hvttl, ?_, fun hhead => ?_⟩, hs.same_cons ht rfl, hholds⟩
    · show Instant.ceilMilli (t.provider.ticker.due + t.provider.ttl / 2) ≤ w.expires
      omega
    · rw [hdeeds] at hhead
      exact absurd ⟨_, _, rfl⟩ (hhead _ rfl)
  | bereft hfail hkind => exact absurd hkind (hknown hfail)
  | replaced hfail hkind => exact absurd hkind (hknown hfail)

theorem Course.secure_opened {registry : Registry} (c : Course (start registry) h s.before)
    {ttl : Nat} (httl : IsEvenTtl ttl) (hnow : Duration.ofMillis 1 ∣ s.before.now)
    (hmove : s.move = .openLock ttl)
    (hok : (s.before.perform (.createSession ttl)).1 = .ok id)
    (hhappenings : s.happenings = [.called (.createSession ttl) (.ok id)])
    (hb : s.after.backend = (s.before.perform (.createSession ttl)).2.backend) :
    Secure (s :: h) s.after s.before.admitted (.holding s.before.now ttl id) := by
  have hon := LockProvider.onTime_holding httl hnow id
  have ha : s.actor? = some (.lock s.before.admitted) := by rw [Scene.actor?, hmove]
  have hv : s.after.backend.session? id = some ⟨ttl, s.before.now + ttl⟩ := by
    rw [hb]
    exact Faulty.session?_of_created hok
  refine ⟨⟨_, hv, rfl, ?_, fun _ => hon.le_now⟩, ?_, ?_⟩
  · exact (ceilMilli_mono (Nat.le_add_right _ _)).trans hon.le_now
  · rw [List.forall_mem_cons]
    refine ⟨fun t ht => ?_, fun s' hs' t ht => ?_⟩
    · exact absurd (c.ledger.admitted _ t ht) (lt_irrefl _)
    · exact absurd (c.admitted_of_mem hs' ht) (lt_irrefl _)
  · intro key htook
    rw [past_cons, hhappenings, List.singleton_append] at htook
    rcases took_cons.mp htook with hacquired | ⟨-, later, earlier, hpast, -⟩
    · cases hacquired
    · have hmem : .called (.acquire key id) (.ok true) ∈ past h := by
        rw [hpast]
        exact List.mem_append_right _ List.mem_cons_self
      have hcreated : .called (.createSession ttl) (.ok id) ∈ s.happenings :=
        hhappenings ▸ List.mem_singleton_self _
      exact absurd hcreated (Scene.not_created (c.acquired_numbered hmem) ttl)

theorem Course.secure {registry : Registry} (c : Course (start registry) h f)
    (hp : ∀ s ∈ h, s.IsPunctual (.lock n)) (hhonest : ∀ s ∈ h, s.move.IsHonest)
    (ht : f.locks.get? n = some t) (httl : IsEvenTtl t.provider.ttl)
    (hchain : NoTwoFail (deeds h (.lock n)))
    (hd : ∀ s ∈ h, ∀ t, s.before.locks.get? n = some t →
      .called (.destroySession t.provider.session) (.ok ()) ∉ s.happenings) :
    Secure h f n t.provider := by
  induction c generalizing t with
  | stay => cases ht
  | @go h g c m hm ih =>
    have ledger := c.ledger
    have hbackend := c.isHonest nofun fun s hs => hhonest s (List.mem_cons_of_mem _ hs)
    have honTime := fun {t} => c.onTime (t := t) (n := n) fun s hs =>
      hp s (List.mem_cons_of_mem _ hs)
    rw [List.forall_mem_cons] at hp hhonest hd
    have hbefore : NoTwoFail (deeds h (.lock n)) := by
      by_cases ha : (Scene.mk g m).actor? = some (.lock n)
      · rw [deeds_cons_of_actor ha] at hchain
        exact hchain.right_of_append
      · rw [deeds_cons_of_ne ha] at hchain
        exact hchain
    rcases Scene.tenancy_of (s := ⟨g, m⟩) ledger.unique ht with ⟨hw, hc, t₀, ht₀, heq⟩ |
      ⟨hmove, t₀, fresh, g', ht₀, htick, hb, heq⟩ |
      ⟨hn, ttl, fresh, hmove, hok, hhappenings, hb, -, heq⟩
    · rw [heq] at httl ⊢
      have hsecure := ih hp.2 hhonest.2 ht₀ httl hbefore hd.2
      exact Secure.stay (s := ⟨g, m⟩) ledger hsecure (honTime ht₀ httl) ht₀
        (ledger.actor_ne (s := ⟨g, m⟩) ht₀ hw hc) (hd.1 t₀ ht₀)
    · rw [heq] at httl ⊢
      have hsecure := ih hp.2 hhonest.2 ht₀ httl hbefore hd.2
      have hon := honTime ht₀ httl
      exact Secure.tick (s := ⟨g, m⟩) ledger hbackend hsecure hon httl ht₀ hmove
        (Scene.now_eq_due ledger hm hp.1 hmove ht₀ hon) hchain (hd.1 t₀ ht₀) htick hb
    · rw [heq] at httl ⊢
      subst hn
      have ha : (Scene.mk g m).actor? = some (.lock g.admitted) := by rw [Scene.actor?, hmove]
      exact secure_opened (s := ⟨g, m⟩) c httl (hp.1.millis ha) hmove hok hhappenings hb

end Fleet

end Rollcall
