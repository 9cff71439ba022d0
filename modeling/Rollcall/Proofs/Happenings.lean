import Rollcall.Journal
import Rollcall.Proofs.Cluster

/-!
# What happens to a cluster at one instant

At an instant a cluster may be called several times, by whomever, and some calls may be made to
fail. What happens is listed, the latest first, and the list tells what became of each session: it
is there afterwards only if it was there before or has been created, it lasts longer only if it has
been renewed, and a session that is alive goes only if it is destroyed.
-/

namespace Rollcall

/-- The session took the key and has not released it since. -/
def Took (key : String) (id : SessionId) (l : List Happening) : Prop :=
  ∃ later earlier, l = later ++ .called (.acquire key id) (.ok true) :: earlier ∧
    .called (.release key id) (.ok ()) ∉ later

theorem took_cons {key : String} {id : SessionId} {x : Happening} {l : List Happening} :
    Took key id (x :: l) ↔ x = .called (.acquire key id) (.ok true) ∨
      x ≠ .called (.release key id) (.ok ()) ∧ Took key id l := by
  constructor
  · rintro ⟨later, earlier, heq, hkept⟩
    cases later with
    | nil =>
      cases heq
      exact .inl rfl
    | cons y later =>
      cases heq
      rw [List.mem_cons, not_or] at hkept
      exact .inr ⟨Ne.symm hkept.1, later, earlier, rfl, hkept.2⟩
  · rintro (rfl | ⟨hx, later, earlier, rfl, hkept⟩)
    · exact ⟨[], l, rfl, List.not_mem_nil⟩
    · refine ⟨x :: later, earlier, rfl, ?_⟩
      rw [List.mem_cons, not_or]
      exact ⟨Ne.symm hx, hkept⟩

namespace Faulty

def session? (b : Faulty Cluster) (id : SessionId) : Option Session :=
  b.behind.locks.sessions.get? id

/-- The next call of the operation is not made to fail. -/
def Spares (b : Faulty Cluster) (op : Call.Kind) : Prop := (Fault.next op b.pending).1 = none

instance (b : Faulty Cluster) (op : Call.Kind) : Decidable (b.Spares op) :=
  inferInstanceAs (Decidable ((Fault.next op b.pending).1 = none))

/-- What may happen to a cluster at an instant. -/
inductive Undergoes (now : Nat) (b : Faulty Cluster) : List Happening → Faulty Cluster → Prop
  | nothing : Undergoes now b [] b
  | call {l b'} (h : Undergoes now b l b') (c : Call) :
      Undergoes now b (.called c (Backend.perform b' now c).1 :: l) (Backend.perform b' now c).2
  | mark {l b'} (h : Undergoes now b l b') (job : String) (stage : Stage) :
      Undergoes now b (.marked job stage :: l) b'

variable {b b' : Faulty Cluster} {now : Nat} {c : Call} {id : SessionId} {v w : Session}
  {l : List Happening}

theorem Undergoes.one (b : Faulty Cluster) (now : Nat) (c : Call) :
    Undergoes now b [.called c (Backend.perform b now c).1] (Backend.perform b now c).2 :=
  Undergoes.nothing.call c

theorem Undergoes.trans {b'' : Faulty Cluster} {l' : List Happening} (h : Undergoes now b l b')
    (h' : Undergoes now b' l' b'') : Undergoes now b (l' ++ l) b'' := by
  induction h' with
  | nothing => exact h
  | call _ c ih => exact ih.call c
  | mark _ job stage ih => exact ih.mark job stage

theorem perform_of_spares (hc : b.Spares c.kind) :
    Backend.perform b now c =
      ((b.behind.perform now c).1,
        ⟨(b.behind.perform now c).2, (Fault.next c.kind b.pending).2⟩) := by
  rcases perform_cases b now c with ⟨e, he, -⟩ | hp
  · cases he.symm.trans hc
  · exact hp

theorem perform_of_fault {e : Error} (he : (Fault.next c.kind b.pending).1 = some e) :
    (Backend.perform b now c).1 = .error e := by
  show (Faulty.perform b now c).1 = .error e
  unfold Faulty.perform
  rcases hn : Fault.next c.kind b.pending with ⟨_ | e', pending⟩
  · rw [hn] at he
    cases he
  · rw [hn] at he
    cases he
    rfl

theorem spares_perform {op : Call.Kind} (hc : b.Spares c.kind) :
    (Backend.perform b now c).2.Spares op ↔ b.Spares op := by
  rw [perform_of_spares hc, Spares, Spares, Fault.next_next hc]

theorem mem_pending_perform {x : Fault} (hx : x ∈ (Backend.perform b now c).2.pending) :
    ∃ y ∈ b.pending, x.on = y.on ∧ x.error = y.error := by
  rcases perform_cases b now c with ⟨e, -, hp⟩ | hp
  · exact Fault.mem_next (hp ▸ hx)
  · exact Fault.mem_next (hp ▸ hx)

theorem behind_sound_perform (h : b.behind.Sound) (now : Nat) (c : Call) :
    (Backend.perform b now c).2.behind.Sound := by
  rcases perform_cases b now c with ⟨e, -, hp⟩ | hp
  · rw [hp]
    exact h
  · rw [hp]
    exact h.perform now c

theorem created_perform_cases (b : Faulty Cluster) (now : Nat) (c : Call) :
    (Backend.perform b now c).2.behind.created = b.behind.created ∧
        (∀ ttl id, Happening.called c (Backend.perform b now c).1 ≠
          .called (.createSession ttl) (.ok id)) ∨
      (Backend.perform b now c).2.behind.created = b.behind.created + 1 ∧
        ∃ ttl, Happening.called c (Backend.perform b now c).1 =
          .called (.createSession ttl) (.ok (Cluster.sessionId (b.behind.created + 1))) := by
  rcases perform_cases b now c with ⟨e, -, hp⟩ | hp
  · rw [hp]
    refine .inl ⟨rfl, fun ttl id heq => ?_⟩
    cases c <;> cases heq
  · rw [hp]
    cases c with
    | createSession ttl => exact .inr ⟨rfl, ttl, rfl⟩
    | _ => exact .inl ⟨rfl, fun ttl id heq => by cases heq⟩

theorem session_of_perform (hs : b.behind.Sound)
    (hw : (Backend.perform b now c).2.session? id = some w) :
    (∃ ttl, Happening.called c (Backend.perform b now c).1 = .called (.createSession ttl) (.ok id) ∧
        w = ⟨ttl, now + ttl⟩) ∨
      ∃ v, b.session? id = some v ∧
        (w = v ∨
          Happening.called c (Backend.perform b now c).1 = .called (.renewSession id) (.ok ()) ∧
            now ≤ v.expires ∧ w = { v with expires := now + v.ttl }) := by
  rcases perform_cases b now c with ⟨e, -, hp⟩ | hp
  · rw [hp] at hw
    exact .inr ⟨w, hw, .inl rfl⟩
  · rw [hp] at hw ⊢
    unfold session? at hw
    rcases Cluster.locks_perform b.behind now c with ⟨-, hlocks⟩ | ⟨r, hr, hlocks⟩
    · simp only [hlocks] at hw
      exact .inr ⟨w, hw, .inl rfl⟩
    · simp only [hlocks] at hw
      rcases LockStore.session_of_serve hs.wellFormed hw with
        ⟨ttl, rfl, rfl⟩ | ⟨v, hv, rfl | ⟨rfl, hle, rfl⟩⟩
      · cases c <;> cases hr
        exact .inl ⟨ttl, rfl, rfl⟩
      · exact .inr ⟨w, hv, .inl rfl⟩
      · cases c <;> cases hr
        refine .inr ⟨v, hv, .inr ⟨?_, hle, rfl⟩⟩
        have hok : (b.behind.perform now (.renewSession id)).1 = .ok () :=
          (LockStore.renew_of_alive hs.wellFormed hv hle).1
        rw [hok]

theorem exists_session_of_perform (hs : b.behind.Sound) (hv : b.session? id = some v)
    (hle : now ≤ v.expires) (hd : Happening.called c (Backend.perform b now c).1 ≠
      .called (.destroySession id) (.ok ())) :
    ∃ w, (Backend.perform b now c).2.session? id = some w ∧ w.ttl = v.ttl ∧
      (w.expires = v.expires ∨ w.expires = now + v.ttl) := by
  rcases perform_cases b now c with ⟨e, -, hp⟩ | hp
  · rw [hp]
    exact ⟨v, hv, rfl, .inl rfl⟩
  · rw [hp] at hd ⊢
    rcases Cluster.locks_perform b.behind now c with ⟨-, hlocks⟩ | ⟨r, hr, hlocks⟩
    · exact ⟨v, by simpa only [session?, hlocks] using hv, rfl, .inl rfl⟩
    · have hne : r ≠ .destroy id := by
        rintro rfl
        cases c <;> cases hr
        exact hd rfl
      simp only [session?, hlocks]
      exact LockStore.exists_session_serve hs.wellFormed (hs.isFresh hr) hv hle hne

theorem holds_of_perform (hs : b.behind.Sound) (hv : b.session? id = some v)
    (hle : now ≤ v.expires) {key : String} (hk : b.Holds key id)
    (hd : Happening.called c (Backend.perform b now c).1 ≠ .called (.destroySession id) (.ok ()))
    (hr : Happening.called c (Backend.perform b now c).1 ≠ .called (.release key id) (.ok ())) :
    (Backend.perform b now c).2.Holds key id := by
  rcases perform_cases b now c with ⟨e, -, hp⟩ | hp
  · rw [hp]
    exact hk
  · rw [hp] at hd hr ⊢
    unfold Holds at hk ⊢
    rcases Cluster.locks_perform b.behind now c with ⟨-, hlocks⟩ | ⟨r, hreq, hlocks⟩
    · simpa only [hlocks] using hk
    · have hdestroy : r ≠ .destroy id := by
        rintro rfl
        cases c <;> cases hreq
        exact hd rfl
      have hrelease : r ≠ .release key id := by
        rintro rfl
        cases c <;> cases hreq
        exact hr rfl
      simp only [hlocks]
      exact LockStore.get?_holders_serve hs.wellFormed hv hle hk hdestroy hrelease

theorem session?_of_created {ttl : Nat}
    (h : (Backend.perform b now (.createSession ttl)).1 = .ok id) :
    (Backend.perform b now (.createSession ttl)).2.session? id = some ⟨ttl, now + ttl⟩ := by
  rcases perform_cases b now (.createSession ttl) with ⟨e, -, hp⟩ | hp
  · rw [hp] at h
    cases h
  · rw [hp] at h ⊢
    cases h
    exact (Table.get?_put _ _ _ _).trans (if_pos rfl)

theorem created_of_spares (hc : b.Spares .createSession) (now ttl : Nat) :
    ∃ id, (Backend.perform b now (.createSession ttl)).1 = .ok id :=
  ⟨Cluster.sessionId (b.behind.created + 1),
    congrArg Prod.fst (perform_of_spares (c := .createSession ttl) hc)⟩

theorem spares_of_created {ttl : Nat}
    (h : (Backend.perform b now (.createSession ttl)).1 = .ok id) :
    b.Spares .createSession := by
  cases hn : (Fault.next .createSession b.pending).1 with
  | none => exact hn
  | some e => cases h.symm.trans (perform_of_fault (c := .createSession ttl) hn)

theorem session?_of_renewed (hs : b.behind.Sound)
    (h : (Backend.perform b now (.renewSession id)).1 = .ok ()) :
    ∃ v, b.session? id = some v ∧ now ≤ v.expires ∧
      (Backend.perform b now (.renewSession id)).2.session? id =
        some { v with expires := now + v.ttl } := by
  rcases perform_cases b now (.renewSession id) with ⟨e, -, hp⟩ | hp
  · rw [hp] at h
    cases h
  · rw [hp] at h ⊢
    cases hv : (b.behind.locks.reap now).sessions.get? id with
    | none =>
      have herror : (b.behind.perform now (.renewSession id)).1 =
          .error (.notFound s!"session {id}") := by
        simp only [Cluster.perform, LockStore.renew, hv]
      rw [herror] at h
      cases h
    | some v =>
      rw [LockStore.get?_sessions_reap hs.wellFormed, Option.filter_eq_some_iff,
        decide_eq_true_eq] at hv
      exact ⟨v, hv.1, hv.2, (LockStore.renew_of_alive hs.wellFormed hv.1 hv.2).2⟩

/-- A renewal that is not made to fail is refused only because the session has gone. -/
theorem gone_of_not_renewed (hs : b.behind.Sound) (hc : b.Spares .renewSession) {e : Error}
    (h : (Backend.perform b now (.renewSession id)).1 = .error e) :
    e.kind = .notFound ∧ ∀ v, b.session? id = some v → v.expires < now := by
  rw [perform_of_spares hc] at h
  cases hv : (b.behind.locks.reap now).sessions.get? id with
  | none =>
    have herror : (b.behind.perform now (.renewSession id)).1 =
        .error (.notFound s!"session {id}") := by
      simp only [Cluster.perform, LockStore.renew, hv]
    refine ⟨?_, fun v hsome => ?_⟩
    · rw [herror] at h
      cases h
      rfl
    · by_contra hle
      rw [LockStore.get?_sessions_reap_of_alive hs.wellFormed hsome (not_lt.mp hle)] at hv
      cases hv
  | some v =>
    rw [LockStore.get?_sessions_reap hs.wellFormed, Option.filter_eq_some_iff,
      decide_eq_true_eq] at hv
    have hok : (b.behind.perform now (.renewSession id)).1 = .ok () :=
      (LockStore.renew_of_alive hs.wellFormed hv.1 hv.2).1
    rw [hok] at h
    cases h

theorem exists_error_of_gone (hs : b.behind.Sound)
    (hgone : ∀ v, b.session? id = some v → v.expires < now) (key : String) :
    ∃ e, (Backend.perform b now (.acquire key id)).1 = .error e := by
  rcases perform_cases b now (.acquire key id) with ⟨e, -, hp⟩ | hp
  · exact ⟨e, by rw [hp]⟩
  · rw [hp]
    have hout : (b.behind.locks.reap now).sessions.contains id = false := by
      rw [LockStore.contains_reap hs.wellFormed, ← Bool.not_eq_true, LockStore.isAlive_iff]
      rintro ⟨v, hv, hle⟩
      exact absurd (hgone v hv) (not_lt.mpr hle)
    refine ⟨.internal s!"invalid session {id}", ?_⟩
    simp only [Cluster.perform, LockStore.acquire, hout, Bool.false_eq_true, if_false]

theorem Undergoes.sound (h : Undergoes now b l b') (hs : b.behind.Sound) : b'.behind.Sound := by
  induction h with
  | nothing => exact hs
  | call _ c ih => exact behind_sound_perform ih now c
  | mark _ _ _ ih => exact ih

theorem Undergoes.mem_pending (h : Undergoes now b l b') {x : Fault} (hx : x ∈ b'.pending) :
    ∃ y ∈ b.pending, x.on = y.on ∧ x.error = y.error := by
  induction h generalizing x with
  | nothing => exact ⟨x, hx, rfl, rfl⟩
  | call _ c ih =>
    obtain ⟨y, hy, hon, herror⟩ := mem_pending_perform hx
    obtain ⟨z, hz, hon', herror'⟩ := ih hy
    exact ⟨z, hz, hon.trans hon', herror.trans herror'⟩
  | mark _ _ _ ih => exact ih hx

theorem Undergoes.created_le (h : Undergoes now b l b') :
    b.behind.created ≤ b'.behind.created := by
  induction h with
  | nothing => exact le_rfl
  | @call l b' _ c ih =>
    rcases created_perform_cases b' now c with ⟨heq, -⟩ | ⟨heq, -⟩
    · exact heq.symm ▸ ih
    · exact heq.symm ▸ ih.trans (Nat.le_succ _)
  | mark _ _ _ ih => exact ih

/-- Sessions that are created get numbers that no session has had. -/
theorem Undergoes.numbered (h : Undergoes now b l b') {ttl : Nat}
    (hid : .called (.createSession ttl) (.ok id) ∈ l) :
    ∃ k, b.behind.created < k ∧ k ≤ b'.behind.created ∧ id = Cluster.sessionId k := by
  induction h with
  | nothing => exact absurd hid List.not_mem_nil
  | @call l b' h c ih =>
    have hle := h.created_le
    rcases List.mem_cons.mp hid with hid | hid
    · rcases created_perform_cases b' now c with ⟨-, hnone⟩ | ⟨heq, ttl', hsome⟩
      · exact absurd hid.symm (hnone ttl id)
      · cases hid.trans hsome
        exact ⟨_, Nat.lt_succ_of_le hle, heq.ge, rfl⟩
    · obtain ⟨k, hlt, hk, rfl⟩ := ih hid
      rcases created_perform_cases b' now c with ⟨heq, -⟩ | ⟨heq, -⟩
      · exact ⟨k, hlt, heq.symm ▸ hk, rfl⟩
      · exact ⟨k, hlt, heq.symm ▸ hk.trans (Nat.le_succ _), rfl⟩
  | mark _ _ _ ih =>
    rcases List.mem_cons.mp hid with hid | hid
    · cases hid
    · exact ih hid

/-- A session that is listed in the end was created, or was listed before, with the same expiry
unless it was alive and has been renewed. -/
theorem Undergoes.session_of (h : Undergoes now b l b') (hs : b.behind.Sound)
    (hw : b'.session? id = some w) :
    (∃ ttl, .called (.createSession ttl) (.ok id) ∈ l ∧ w = ⟨ttl, now + ttl⟩) ∨
      ∃ v, b.session? id = some v ∧
        (w = v ∨ .called (.renewSession id) (.ok ()) ∈ l ∧ now ≤ v.expires ∧
          w = { v with expires := now + v.ttl }) := by
  induction h generalizing w with
  | nothing => exact .inr ⟨w, hw, .inl rfl⟩
  | @call l b' h c ih =>
    rcases session_of_perform (h.sound hs) hw with ⟨ttl, hc, rfl⟩ | ⟨u, hu, hcase⟩
    · exact .inl ⟨ttl, hc ▸ List.mem_cons_self, rfl⟩
    · rcases ih hu with ⟨ttl, hmem, rfl⟩ | ⟨v, hv, hbefore⟩
      · refine .inl ⟨ttl, List.mem_cons_of_mem _ hmem, ?_⟩
        rcases hcase with rfl | ⟨-, -, rfl⟩
        · rfl
        · rfl
      · refine .inr ⟨v, hv, ?_⟩
        rcases hcase with rfl | ⟨hc, hle, rfl⟩
        · rcases hbefore with rfl | ⟨hmem, hle, rfl⟩
          · exact .inl rfl
          · exact .inr ⟨List.mem_cons_of_mem _ hmem, hle, rfl⟩
        · rw [hc]
          rcases hbefore with rfl | ⟨-, halive, rfl⟩
          · exact .inr ⟨List.mem_cons_self, hle, rfl⟩
          · exact .inr ⟨List.mem_cons_self, halive, rfl⟩
  | mark _ _ _ ih =>
    rcases ih hw with ⟨ttl, hmem, heq⟩ | ⟨v, hv, heq | ⟨hmem, hcase⟩⟩
    · exact .inl ⟨ttl, List.mem_cons_of_mem _ hmem, heq⟩
    · exact .inr ⟨v, hv, .inl heq⟩
    · exact .inr ⟨v, hv, .inr ⟨List.mem_cons_of_mem _ hmem, hcase⟩⟩

theorem Undergoes.exists_session (h : Undergoes now b l b') (hs : b.behind.Sound)
    (hv : b.session? id = some v) (hle : now ≤ v.expires)
    (hd : .called (.destroySession id) (.ok ()) ∉ l) :
    ∃ w, b'.session? id = some w ∧ w.ttl = v.ttl ∧
      (w.expires = v.expires ∨ w.expires = now + v.ttl) := by
  induction h with
  | nothing => exact ⟨v, hv, rfl, .inl rfl⟩
  | @call l b' h c ih =>
    rw [List.mem_cons, not_or] at hd
    obtain ⟨u, hu, httl, hexpires⟩ := ih hd.2
    have halive : now ≤ u.expires := by omega
    obtain ⟨w, hw, hwttl, hwexpires⟩ :=
      exists_session_of_perform (h.sound hs) hu halive (Ne.symm hd.1)
    refine ⟨w, hw, hwttl.trans httl, ?_⟩
    omega
  | mark _ _ _ ih =>
    rw [List.mem_cons, not_or] at hd
    exact ih hd.2

theorem Undergoes.holds (h : Undergoes now b l b') (hs : b.behind.Sound)
    (hv : b.session? id = some v) (hle : now ≤ v.expires)
    (hd : .called (.destroySession id) (.ok ()) ∉ l) {key : String} {past : List Happening}
    (hpast : Took key id past → b.Holds key id) (ht : Took key id (l ++ past)) :
    b'.Holds key id := by
  induction h with
  | nothing => exact hpast ht
  | @call l b' h c ih =>
    rw [List.mem_cons, not_or] at hd
    rcases took_cons.mp ht with hwon | ⟨hkept, ht⟩
    · cases c with
      | acquire key' other =>
        obtain ⟨rfl, rfl⟩ : key' = key ∧ other = id := by
          injection hwon with hc
          cases hc
          exact ⟨rfl, rfl⟩
        exact holds_perform_acquire (by injection hwon)
      | _ => cases hwon
    · obtain ⟨u, hu, httl, hexpires⟩ := h.exists_session hs hv hle hd.2
      have halive : now ≤ u.expires := by omega
      exact holds_of_perform (h.sound hs) hu halive (ih hd.2 ht) (Ne.symm hd.1) hkept
  | mark _ _ _ ih =>
    rw [List.mem_cons, not_or] at hd
    rcases took_cons.mp ht with hwon | ⟨-, ht⟩
    · cases hwon
    · exact ih hd.2 ht

theorem Undergoes.acquired_numbered (h : Undergoes now b l b') (hs : b.behind.Sound) {key : String}
    (ha : .called (.acquire key id) (.ok true) ∈ l) :
    ∃ k ≤ b'.behind.created, id = Cluster.sessionId k := by
  induction h with
  | nothing => exact absurd ha List.not_mem_nil
  | @call l b' h c ih =>
    have hle : b'.behind.created ≤ (Backend.perform b' now c).2.behind.created :=
      (Undergoes.one b' now c).created_le
    rcases List.mem_cons.mp ha with ha | ha
    · cases c with
      | acquire key' other =>
        obtain ⟨rfl, rfl⟩ : key = key' ∧ id = other := by
          injection ha with hc
          cases hc
          exact ⟨rfl, rfl⟩
        have hok : (Backend.perform b' now (.acquire key id)).1 = .ok true := by
          injection ha with _ hout
          exact hout.symm
        cases hv : b'.session? id with
        | none =>
          have hgone : ∀ v, b'.session? id = some v → v.expires < now := fun v hsome => by
            cases hv.symm.trans hsome
          obtain ⟨e, he⟩ := exists_error_of_gone (h.sound hs) hgone key
          cases he.symm.trans hok
        | some v =>
          obtain ⟨k, hk, heq⟩ := (h.sound hs).numbered id v hv
          exact ⟨k, hk.trans hle, heq⟩
      | _ => cases ha
    · obtain ⟨k, hk, heq⟩ := ih ha
      exact ⟨k, hk.trans hle, heq⟩
  | mark _ _ _ ih =>
    rcases List.mem_cons.mp ha with ha | ha
    · cases ha
    · exact ih ha

end Faulty

end Rollcall
