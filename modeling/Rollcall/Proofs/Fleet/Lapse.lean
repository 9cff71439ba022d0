import Rollcall.Proofs.Fleet.Replacement

/-!
# What a provider leaves behind

A provider that has gone, closed or only dropped, makes no more calls. Its sessions may still be
there, if it did not close them or was made to believe that they were lost. But nobody renews them
any more, so none of them holds a key once the provider's time to live has passed.
-/

namespace Rollcall

namespace Faulty

variable {b : Faulty Cluster} {now : Nat} {id : SessionId}

theorem session?_of_destroyed (h : (Backend.perform b now (.destroySession id)).1 = .ok ()) :
    (Backend.perform b now (.destroySession id)).2.session? id = none := by
  rcases perform_cases b now (.destroySession id) with ⟨e, -, hp⟩ | hp
  · rw [hp] at h
    cases h
  · rw [hp]
    exact (Table.get?_erase _ _ _).trans (if_pos rfl)

theorem exists_holder_of_refused {key : String}
    (h : (Backend.perform b now (.acquire key id)).1 = .ok false) :
    ∃ other, (b.behind.locks.holder now key).1 = some other ∧ other ≠ id := by
  rcases perform_cases b now (.acquire key id) with ⟨e, -, hp⟩ | hp
  · rw [hp] at h
    cases h
  · rw [hp] at h
    simp only [Cluster.perform, LockStore.acquire] at h
    split_ifs at h
    · split at h
      · next other hother =>
        split_ifs at h with heq
        · cases h
        · exact ⟨other, hother, heq⟩
      · cases h

end Faulty

namespace Fleet

variable {f g : Fleet (Faulty Cluster)} {h h' : List Scene} {s : Scene} {m : Move} {n : Nat}
  {id : SessionId} {t : Tenancy}

theorem deeds_append (h' h : List Scene) (m : Member) :
    deeds (h' ++ h) m = deeds h' m ++ deeds h m :=
  List.flatMap_append

/-- The provider was there and is not any more. -/
structure Gone (f : Fleet (Faulty Cluster)) (n : Nat) : Prop where
  none : f.locks.get? n = none
  admitted : n < f.admitted

theorem Gone.after (hl : Ledger h s.before) (hg : Gone s.before n) : Gone s.after n where
  none := by
    rw [← Option.not_isSome_iff_eq_none, Option.isSome_iff_exists]
    rintro ⟨t, ht⟩
    rcases Scene.tenancy_of hl.unique ht with ⟨-, -, t₀, ht₀, -⟩ | ⟨-, t₀, -, -, ht₀, -⟩ | ⟨hn, -⟩
    · cases hg.none.symm.trans ht₀
    · cases hg.none.symm.trans ht₀
    · exact absurd hg.admitted (by omega)
  admitted := hg.admitted.trans_le s.admitted_le

theorem Gone.happenings (hg : Gone s.before n) (ha : s.actor? = some (.lock n)) :
    s.happenings = [] := by
  rcases Scene.actor_cases ha with ⟨-, heq⟩ | ⟨-, -, hn, -⟩ | ⟨-, t, -, -, ht, -⟩ | ⟨-, t, ht, -⟩
  · exact heq
  · exact absurd hg.admitted (by omega)
  · cases hg.none.symm.trans ht
  · cases hg.none.symm.trans ht

/-- A provider renews its own session, which is none of those of a provider that has gone. -/
theorem Gone.not_renewed (hl : Ledger h s.before) (hg : Gone s.before n) (hm : Made h n id)
    {k : Nat} (hmove : s.move = .wake (.lock k)) :
    .called (.renewSession id) (.ok ()) ∉ s.happenings := by
  intro hr
  have ha : s.actor? = some (.lock k) := by rw [Scene.actor?, hmove]
  rcases Scene.actor_cases ha with ⟨-, heq⟩ | ⟨_, hopen, -⟩ | ⟨-, t, fresh, g, ht, htick⟩ |
    ⟨hclose, -⟩
  · rw [heq] at hr
    exact absurd hr List.not_mem_nil
  · cases hopen.symm.trans hmove
  · have hk := hl.current k t ht
    rw [← (htick.renewal hr).1] at hk
    rw [hl.apart k n id hk hm] at ht
    cases hg.none.symm.trans ht
  · cases hclose.symm.trans hmove

theorem Ledger.made_of_going (hl : Ledger h s.before) (ht : s.before.locks.get? n = some t)
    (hgone : s.after.locks.get? n = none) (hm : Made (s :: h) n id) : Made h n id := by
  rcases made_cons.mp hm with ⟨ha, ttl, hc⟩ | hm
  · rcases Scene.created_of_actor ha hc with ⟨-, hn, -⟩ | ⟨hmove, -⟩
    · exact absurd (hl.admitted n t ht) (by omega)
    · obtain ⟨fresh, g, -, -, hlocks⟩ := Scene.tick_of_wake hmove ht
      rw [hlocks, Table.get?_put, if_pos rfl] at hgone
      cases hgone
  · exact hm

theorem Ledger.expires_of_going (hl : Ledger h s.before) (ht : s.before.locks.get? n = some t)
    (hm : Made h n id) {v : Session} (hv : s.after.backend.session? id = some v) :
    v.expires ≤ s.before.now + t.provider.ttl := by
  rcases Scene.session_of hl.sound hv with ⟨ttl, hc, -⟩ | ⟨w, hw, hcase⟩
  · exact absurd hc (hl.not_created hm ttl)
  · have httl := hl.ttl_eq n t id w ht hm hw
    have hexpires := hl.expires_le id w hw
    rcases hcase with rfl | ⟨-, -, rfl⟩
    · exact httl ▸ hexpires
    · exact httl ▸ le_rfl

/-- Once a provider has gone it makes no calls, and its sessions are not renewed. -/
theorem Course.gone {registry : Registry} (c : Course (start registry) h f)
    (hg : Gone f n) (c' : Course f h' g)
    (hrenew : ∀ s ∈ h', ∀ id, Made h n id → .called (.renewSession id) (.ok ()) ∈ s.happenings →
      ∃ k, s.move = .wake (.lock k)) {bound : Nat}
    (hbound : ∀ id v, Made h n id → f.backend.session? id = some v → v.expires ≤ bound) :
    Gone g n ∧ deeds h' (.lock n) = [] ∧
      ∀ id v, Made h n id → g.backend.session? id = some v → v.expires ≤ bound := by
  induction c' with
  | stay => exact ⟨hg, rfl, hbound⟩
  | @go h' g c' m hm ih =>
    rw [List.forall_mem_cons] at hrenew
    obtain ⟨hgone, hdeeds, hexpires⟩ := ih hrenew.2
    have ledger := (c.trans c').ledger
    refine ⟨Gone.after (s := ⟨g, m⟩) ledger hgone, ?_, fun id v hmade hv => ?_⟩
    · by_cases ha : (Scene.mk g m).actor? = some (.lock n)
      · rw [deeds_cons_of_actor ha, hdeeds, Scene.events_eq,
          Gone.happenings (s := ⟨g, m⟩) hgone ha]
        rfl
      · rw [deeds_cons_of_ne ha, hdeeds]
    · have hmade' : Made (h' ++ h) n id := hmade.append h'
      refine hexpires id v hmade (ledger.session_before (s := ⟨g, m⟩) hmade' (fun hr => ?_) hv)
      obtain ⟨k, hmove⟩ := hrenew.1 id hmade hr
      exact Gone.not_renewed ledger hgone hmade' hmove hr

/-- A provider that was closed without an error, and was never told falsely that its session was
unknown, leaves no session behind. -/
theorem Course.not_lives_of_closed {registry : Registry} (c : Course (start registry) h f)
    (hh : ∀ s ∈ h, ¬ s.Misinforms n) (ht : f.locks.get? n = some t)
    (hclose : (f.closeLock n).1 = .ok ()) (hm : Made h n id) : ¬ (f.closeLock n).2.Lives id := by
  have ledger := c.ledger
  by_cases heq : id = t.provider.session
  · rintro ⟨v, hv, -⟩
    have hdestroy : f.closeLock n = ({ f with locks := f.locks.erase n } : Fleet _).perform
        (.destroySession t.provider.session) := by
      unfold Fleet.closeLock
      rw [ht]
      rfl
    rw [hdestroy] at hclose hv
    have hok : (Backend.perform f.backend f.now
        (.destroySession t.provider.session)).1 = .ok () := hclose
    have hnone := Faulty.session?_of_destroyed hok
    rw [heq] at hv
    cases hnone.symm.trans hv
  · exact Scene.not_lives_after (s := ⟨f, .closeLock n⟩) (Scene.now_le trivial) ledger.sound
      (ledger.numbered n id hm) fun hl => heq (c.eq_session hh ht hm hl)

/-- A provider that is closed, with or without an error, or is dropped makes no more calls, and once
its time to live has passed no key is held by a session that it made, and no lock is refused because
of one. If it is closed without an error, and was never told falsely that its session was unknown,
this is so at once. -/
theorem Course.lapses {registry : Registry} (c : Course (start registry) h f)
    (ht : f.locks.get? n = some t) (hm : m.IsPossible f) (hgone : (f.after m).locks.get? n = none)
    (c' : Course (f.after m) h' g)
    (hrenew : ∀ s ∈ h', ∀ id, Made h n id → .called (.renewSession id) (.ok ()) ∈ s.happenings →
      ∃ k, s.move = .wake (.lock k)) :
    deeds h' (.lock n) = [] ∧
    (f.now + t.provider.ttl < g.now ∨
        (m = .closeLock n ∧ (f.closeLock n).1 = .ok () ∧ ∀ s ∈ h, ¬ s.Misinforms n) →
      (∀ id key, Made (h' ++ ⟨f, m⟩ :: h) n id → g.holder key ≠ some id) ∧
      ∀ id key, (g.callAll (LockProvider.acquire key id)).1 = .ok none →
        ∃ other, g.holder key = some other ∧ other ≠ id ∧
          ¬ Made (h' ++ ⟨f, m⟩ :: h) n other) := by
  have ledger := c.ledger
  have ledger' := (c.go m hm).ledger
  have ledgerG := ((c.go m hm).trans c').ledger
  have hmade : ∀ {id}, Made (⟨f, m⟩ :: h) n id → Made h n id :=
    Ledger.made_of_going (s := ⟨f, m⟩) ledger ht hgone
  have hadmitted := (ledger.admitted n t ht).trans_le (Scene.admitted_le ⟨f, m⟩)
  obtain ⟨-, hdeeds, hexpires⟩ := (c.go m hm).gone ⟨hgone, hadmitted⟩ c'
    (fun s hs id hid => hrenew s hs id (hmade hid))
    fun id v hid hv => Ledger.expires_of_going (s := ⟨f, m⟩) ledger ht (hmade hid) hv
  refine ⟨hdeeds, fun hcase => ?_⟩
  have hbefore : ∀ {id}, Made (h' ++ ⟨f, m⟩ :: h) n id → Made (⟨f, m⟩ :: h) n id := by
    rintro id ⟨e, he, hmade⟩
    rw [deeds_append, hdeeds] at he
    exact ⟨e, he, hmade⟩
  have hdead : ∀ id, Made (h' ++ ⟨f, m⟩ :: h) n id → ¬ g.Lives id := by
    intro id hid
    rcases hcase with hlate | ⟨rfl, hclose, hh⟩
    · rintro ⟨v, hv, hle⟩
      have hbound : v.expires ≤ f.now + t.provider.ttl := hexpires id v (hbefore hid) hv
      omega
    · exact c'.not_lives ledger'.sound (ledger'.numbered n id (hbefore hid))
        (c.not_lives_of_closed hh ht hclose (hmade (hbefore hid)))
  have hfree : ∀ id key, Made (h' ++ ⟨f, m⟩ :: h) n id → g.holder key ≠ some id :=
    fun id key hid hheld => hdead id hid ((holder_eq_some_iff ledgerG.sound).mp hheld).2
  refine ⟨hfree, fun id key hrefused => ?_⟩
  have hr : (g.perform (.acquire key id)).1 = .ok false := by
    have heq : (g.callAll (LockProvider.acquire key id)).1 =
        ((g.perform (.acquire key id)).1 : Except Error Bool).map
          (fun won => if won then some ⟨key, id⟩ else none) := rfl
    rw [heq] at hrefused
    rcases hr : (g.perform (.acquire key id)).1 with e | _ | _
    · rw [hr] at hrefused
      cases hrefused
    · rfl
    · rw [hr] at hrefused
      cases hrefused
  obtain ⟨other, hother, hne⟩ := Faulty.exists_holder_of_refused hr
  exact ⟨other, hother, hne, fun hid => hfree other key hid hother⟩

def twoProviders : List Move :=
  [.call (.acquire "k" (Cluster.sessionId 1)), .openLock LockProvider.defaultTtl,
    .openLock LockProvider.defaultTtl]

def lapseOfTime : List Move :=
  [.pass (Duration.ofMillis 10001), .wake (.lock 1), .pass (Duration.ofSecs 5)]

/-- If the first provider is dropped, the lock is free when the time to live has passed; if it is
closed, the lock is free at once. -/
theorem lapses_of_dropped_and_closed :
    ∃ f g, f = (start .standard).afterAll twoProviders ∧
      g = (f.dropLock 0).afterAll lapseOfTime ∧
      (∀ key, g.holder key ≠ some (Cluster.sessionId 1)) ∧
      (g.callAll (LockProvider.acquire "k" (Cluster.sessionId 2))).1 =
        .ok (some ⟨"k", Cluster.sessionId 2⟩) ∧
      (f.callAll (LockProvider.acquire "k" (Cluster.sessionId 2))).1 = .ok none ∧
      ∀ key, (f.closeLock 0).2.holder key ≠ some (Cluster.sessionId 1) := by
  have c := course_scenes (start .standard) twoProviders (by decide +kernel)
  have hh : ∀ s ∈ (start .standard).scenes twoProviders, s.move.IsHonest := by
    simp [twoProviders, scenes, Move.IsHonest]
  have ht : ((start .standard).afterAll twoProviders).locks.get? 0 =
      some { provider := .holding 0 LockProvider.defaultTtl (Cluster.sessionId 1) } := rfl
  have hmade := c.ledger.current 0 _ ht
  have c' := course_scenes (((start .standard).afterAll twoProviders).dropLock 0) lapseOfTime
    (by decide +kernel)
  obtain ⟨-, hlate⟩ := c.lapses ht (m := .dropLock 0) trivial rfl c' fun s hs id _ hr => by
    rcases List.mem_cons.mp hs with rfl | hs
    · exact absurd hr List.not_mem_nil
    · rcases List.mem_cons.mp hs with rfl | hs
      · exact ⟨1, rfl⟩
      · obtain rfl := List.mem_singleton.mp hs
        exact absurd hr List.not_mem_nil
  obtain ⟨-, hatOnce⟩ := c.lapses ht (m := .closeLock 0) trivial rfl .stay fun s hs =>
    absurd hs List.not_mem_nil
  refine ⟨_, _, rfl, rfl, fun key => ?_, by decide +kernel, by decide +kernel, fun key => ?_⟩
  · exact (hlate (.inl (by decide +kernel))).1 _ key ((hmade.cons _).append _)
  · exact (hatOnce (.inr ⟨rfl, rfl, c.not_misinforms hh⟩)).1 _ key (hmade.cons _)

end Fleet

end Rollcall
