import Rollcall.Proofs.Fleet.Secure

/-!
# Sessions that fade

A renewal that fails leaves the session to expire when it was to expire before. After two failures
in a row this is before the next renewal is due, which finds the session unknown and brings another,
unless a fault hits it too.
-/

namespace Rollcall

namespace Fleet

variable {f g : Fleet (Faulty Cluster)} {h : List Scene} {s : Scene} {n : Nat} {t : Tenancy}
  {p : LockProvider} {id : SessionId}

/-- The session lasts no longer than to the second renewal from now, if the last one failed only to
the next one, and if the last two failed not even to that. -/
structure Fading (h : List Scene) (f : Fleet (Faulty Cluster)) (n : Nat) (p : LockProvider) :
    Prop where
  bound : ∀ v, f.backend.session? p.session = some v →
    v.expires ≤ Instant.ceilMilli (p.ticker.due + p.ttl / 2)
  bound_one : ∀ e l, deeds h (.lock n) = e :: l → e.FailsToRenew →
    ∀ v, f.backend.session? p.session = some v → v.expires ≤ Instant.ceilMilli p.ticker.due
  bound_two : ∀ e e' l, deeds h (.lock n) = e :: e' :: l → e.FailsToRenew → e'.FailsToRenew →
    ∀ v, f.backend.session? p.session = some v → v.expires < p.ticker.due

theorem Fading.stay (hl : Ledger h s.before) (hs : Fading h s.before n t.provider)
    (ht : s.before.locks.get? n = some t) (ha : s.actor? ≠ some (.lock n))
    (hr : .called (.renewSession t.provider.session) (.ok ()) ∉ s.happenings) :
    Fading (s :: h) s.after n t.provider := by
  have hbefore : ∀ v, s.after.backend.session? t.provider.session = some v →
      s.before.backend.session? t.provider.session = some v := fun _ =>
    hl.session_before (hl.current n t ht) hr
  refine ⟨fun v hv => hs.bound v (hbefore v hv), ?_, ?_⟩
  · rw [deeds_cons_of_ne ha]
    exact fun e l heq hfails v hv => hs.bound_one e l heq hfails v (hbefore v hv)
  · rw [deeds_cons_of_ne ha]
    exact fun e e' l heq hfails hfails' v hv =>
      hs.bound_two e e' l heq hfails hfails' v (hbefore v hv)

/-- What a provider finds after a tick is as good as new, or is what it had before. -/
theorem Ledger.session_of_tick (hl : Ledger h s.before) (ht : s.before.locks.get? n = some t)
    (htick : Tick s.before t.provider id s.happenings g) {v : Session}
    (hv : s.after.backend.session? id = some v) :
    v.expires = s.before.now + t.provider.ttl ∨
      id = t.provider.session ∧ s.before.backend.session? id = some v := by
  rcases Scene.session_of hl.sound hv with ⟨ttl, hc, rfl⟩ | ⟨w, hw, hcase⟩
  · exact .inl (by rw [(htick.created hc).1])
  · have hsame : id = t.provider.session := by
      rcases htick.eq_or_replaced with hsame | ⟨hc, -⟩
      · exact hsame
      · exact absurd hc (Scene.not_created (hl.sound.numbered id w hw) _)
    rcases hcase with rfl | ⟨-, -, rfl⟩
    · exact .inr ⟨hsame, hw⟩
    · have httl := hl.ttl_eq n t id w ht (hsame ▸ hl.current n t ht) hw
      exact .inl (by rw [← httl])

theorem Tick.of_fails {l : List Happening} (htick : Tick f p id l g) {time : Nat} {e : Event}
    {earlier rest : List Event} (heq : l.map (Event.mk time) ++ earlier = e :: rest)
    (hfails : e.FailsToRenew) :
    rest = earlier ∧ id = p.session ∧ .called (.renewSession p.session) (.ok ()) ∉ l := by
  obtain ⟨other, error, he⟩ := hfails
  cases htick with
  | renewed =>
    cases heq
    cases he
  | failed =>
    cases heq
    refine ⟨rfl, rfl, fun hr => ?_⟩
    rw [List.mem_singleton] at hr
    cases hr
  | bereft =>
    cases heq
    cases he
  | replaced =>
    cases heq
    cases he

theorem Fading.tick (hl : Ledger h s.before) (hs : Fading h s.before n t.provider)
    (hon : t.provider.OnTime s.before.now) (httl : IsEvenTtl t.provider.ttl)
    (ht : s.before.locks.get? n = some t) (hmove : s.move = .wake (.lock n))
    (hnow : s.before.now = Instant.ceilMilli t.provider.ticker.due)
    (htick : Tick s.before t.provider id s.happenings g) :
    Fading (s :: h) s.after n { t.provider with
      session := id, ticker := t.provider.ticker.advance s.before.now } := by
  have ha : s.actor? = some (.lock n) := by rw [Scene.actor?, hmove]
  have hgrid := httl.ceilMilli_add_halves t.provider.ticker.due
  have hdeeds := deeds_cons_of_actor ha h
  rw [Scene.events_eq] at hdeeds
  -- a renewal that failed leaves the session as it was
  have hbefore : ∀ e l, deeds (s :: h) (.lock n) = e :: l → e.FailsToRenew →
      ∀ v, s.after.backend.session? id = some v → l = deeds h (.lock n) ∧
        s.before.backend.session? t.provider.session = some v := by
    intro e l heq hfails v hv
    obtain ⟨hrest, rfl, hr⟩ := htick.of_fails (hdeeds.symm.trans heq) hfails
    exact ⟨hrest, hl.session_before (hl.current n t ht) hr hv⟩
  rw [hon.advance_eq]
  refine ⟨fun v hv => ?_, fun e l heq hfails v hv => ?_, fun e e' l heq hfails hfails' v hv => ?_⟩
  · show v.expires ≤ Instant.ceilMilli (t.provider.ticker.due + t.provider.ttl / 2 +
      t.provider.ttl / 2)
    rcases hl.session_of_tick ht htick hv with hexpires | ⟨hsame, hw⟩
    · rw [hexpires, hgrid, hnow]
    · exact (hs.bound v (hsame ▸ hw)).trans (ceilMilli_mono (Nat.le_add_right _ _))
  · exact hs.bound v (hbefore e l heq hfails v hv).2
  · obtain ⟨hrest, hw⟩ := hbefore e _ heq hfails v hv
    have hone := hs.bound_one e' l hrest.symm hfails' v hw
    have hlt := Instant.ceilMilli_lt t.provider.ticker.due
    have hhalf := httl.millis_lt_half
    show v.expires < t.provider.ticker.due + t.provider.ttl / 2
    omega

theorem fading_opened {ttl : Nat} (httl : IsEvenTtl ttl)
    (hnow : Duration.ofMillis 1 ∣ s.before.now) (hmove : s.move = .openLock ttl)
    (hok : (s.before.perform (.createSession ttl)).1 = .ok id)
    (hhappenings : s.happenings = [.called (.createSession ttl) (.ok id)])
    (hb : s.after.backend = (s.before.perform (.createSession ttl)).2.backend) :
    Fading (s :: h) s.after s.before.admitted (.holding s.before.now ttl id) := by
  have ha : s.actor? = some (.lock s.before.admitted) := by rw [Scene.actor?, hmove]
  have hdeeds := deeds_cons_of_actor ha h
  rw [Scene.events_eq, hhappenings] at hdeeds
  have hnew : ∀ {e l}, deeds (s :: h) (.lock s.before.admitted) = e :: l →
      ¬ e.FailsToRenew := by
    rintro e l heq ⟨other, error, he⟩
    cases hdeeds.symm.trans heq
    cases he
  refine ⟨fun v hv => ?_, fun e l heq hfails => absurd hfails (hnew heq),
    fun e e' l heq hfails => absurd hfails (hnew heq)⟩
  have hv' : s.after.backend.session? id = some ⟨ttl, s.before.now + ttl⟩ := by
    rw [hb]
    exact Faulty.session?_of_created hok
  cases hv'.symm.trans hv
  show s.before.now + ttl ≤
    Instant.ceilMilli (s.before.now + LockProvider.renewalPeriod ttl + ttl / 2)
  rw [httl.period_eq, httl.ceilMilli_add_halves, Instant.ceilMilli_of_dvd hnow]

theorem Course.fading {registry : Registry} (c : Course (start registry) h f)
    (hp : ∀ s ∈ h, s.IsPunctual (.lock n)) (ht : f.locks.get? n = some t)
    (httl : IsEvenTtl t.provider.ttl)
    (hr : ∀ s ∈ h, s.actor? ≠ some (.lock n) → ∀ t, s.before.locks.get? n = some t →
      .called (.renewSession t.provider.session) (.ok ()) ∉ s.happenings) :
    Fading h f n t.provider := by
  induction c generalizing t with
  | stay => cases ht
  | @go h g c m hm ih =>
    have ledger := c.ledger
    have honTime := fun {t} => c.onTime (t := t) (n := n) fun s hs =>
      hp s (List.mem_cons_of_mem _ hs)
    rw [List.forall_mem_cons] at hp hr
    rcases Scene.tenancy_of (s := ⟨g, m⟩) ledger.unique ht with ⟨hw, hc, t₀, ht₀, heq⟩ |
      ⟨hmove, t₀, fresh, g', ht₀, htick, -, heq⟩ |
      ⟨hn, ttl, fresh, hmove, hok, hhappenings, hb, -, heq⟩
    · rw [heq] at httl ⊢
      have ha := ledger.actor_ne (s := ⟨g, m⟩) ht₀ hw hc
      exact Fading.stay (s := ⟨g, m⟩) ledger (ih hp.2 ht₀ httl hr.2) ht₀ ha (hr.1 ha t₀ ht₀)
    · rw [heq] at httl ⊢
      have hon := honTime ht₀ httl
      exact Fading.tick (s := ⟨g, m⟩) ledger (ih hp.2 ht₀ httl hr.2) hon httl ht₀ hmove
        (Scene.now_eq_due ledger hm hp.1 hmove ht₀ hon) htick
    · rw [heq] at httl ⊢
      subst hn
      have ha : (Scene.mk g m).actor? = some (.lock g.admitted) := by rw [Scene.actor?, hmove]
      exact fading_opened (s := ⟨g, m⟩) httl (hp.1.millis ha) hmove hok hhappenings hb

/-- A tick that a fault hits does not replace a session, unless the fault lies about it. -/
theorem Tick.eq_of_hit {l : List Happening} (htick : Tick f p id l g) (hf : f.backend.IsHonest)
    (hhit : ¬ (f.backend.Spares .renewSession ∧ f.backend.Spares .createSession)) :
    id = p.session := by
  cases htick with
  | replaced h hkind h' =>
    have hrenew := spares_of_unknown hf h hkind
    have hcreate := Faulty.spares_of_created h'
    exact absurd ⟨hrenew, (Faulty.spares_perform (c := .renewSession p.session) hrenew).mp hcreate⟩
      hhit
  | _ => rfl

theorem Course.eq_session_of_hit {registry : Registry} (c : Course (start registry) h f)
    (ht : f.locks.get? n = some t) (hf : f.backend.IsHonest) {h' : List Scene} (c' : Course f h' g)
    (hh : ∀ s ∈ h', s.move.IsHonest)
    (hhit : ∀ s ∈ h', s.move = .wake (.lock n) →
      ¬ (s.before.backend.Spares .renewSession ∧ s.before.backend.Spares .createSession))
    {t' : Tenancy} (ht' : g.locks.get? n = some t') :
    t'.provider.session = t.provider.session := by
  induction c' generalizing t' with
  | stay =>
    cases ht.symm.trans ht'
    rfl
  | @go h' g c' m hm ih =>
    have ledger := (c.trans c').ledger
    have hbackend := c'.isHonest hf fun s hs => hh s (List.mem_cons_of_mem _ hs)
    rw [List.forall_mem_cons] at hh hhit
    rcases Scene.tenancy_of (s := ⟨g, m⟩) ledger.unique ht' with ⟨-, -, t₀, ht₀, heq⟩ |
      ⟨hmove, t₀, fresh, g', ht₀, htick, -, heq⟩ | ⟨hn, -⟩
    · rw [heq]
      exact ih hh.2 hhit.2 ht₀
    · rw [heq]
      exact (htick.eq_of_hit hbackend (hhit.1 hmove)).trans (ih hh.2 hhit.2 ht₀)
    · have hadmitted := c.ledger.admitted n t ht
      have hle := c'.admitted_le
      exact absurd hn (by show n ≠ g.admitted; omega)

end Fleet

end Rollcall
