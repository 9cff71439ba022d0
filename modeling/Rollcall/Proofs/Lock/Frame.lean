import Rollcall.Proofs.Lock.Request

/-!
# What a request leaves as it was

A session that is alive survives every request but its own destruction, and a renewal can only
prolong it. A key that it holds stays its own until it releases the key or is destroyed.
-/

namespace Rollcall.LockStore

variable {s : LockStore} {now : Nat} {id : SessionId} {r : Request} {v : Session}

/-- A session has the same time to live after a request, and lasts as long as before or is as good
as new. -/
theorem exists_session_apply (hf : r.IsFresh s) (hv : s.sessions.get? id = some v)
    (hd : r ≠ .destroy id) :
    ∃ w, (s.apply now r).2.sessions.get? id = some w ∧ w.ttl = v.ttl ∧
      (w.expires = v.expires ∨ w.expires = now + v.ttl) := by
  cases r with
  | create other ttl =>
    have hne : id ≠ other := by
      rintro rfl
      cases hv.symm.trans hf
    exact ⟨v, by simp [LockStore.apply, Table.get?_put, hne, hv], rfl, .inl rfl⟩
  | renew other =>
    simp only [LockStore.apply]
    split
    · exact ⟨v, hv, rfl, .inl rfl⟩
    · next w hw =>
      by_cases heq : id = other
      · subst heq
        cases hw.symm.trans hv
        exact ⟨{ v with expires := now + v.ttl }, by simp [Table.get?_put], rfl, .inr rfl⟩
      · exact ⟨v, by simp [Table.get?_put, heq, hv], rfl, .inl rfl⟩
  | destroy other =>
    have hne : id ≠ other := fun heq => hd (heq ▸ rfl)
    exact ⟨v, by simp [LockStore.apply, LockStore.drop, Table.get?_erase, hne, hv], rfl, .inl rfl⟩
  | acquire key other =>
    simp only [LockStore.apply]
    split_ifs
    · split <;> exact ⟨v, hv, rfl, .inl rfl⟩
    · exact ⟨v, hv, rfl, .inl rfl⟩
  | release key other =>
    simp only [LockStore.apply]
    split_ifs <;> exact ⟨v, hv, rfl, .inl rfl⟩
  | holder key => exact ⟨v, hv, rfl, .inl rfl⟩
  | sessionCount => exact ⟨v, hv, rfl, .inl rfl⟩

/-- A session keeps its key through every request but the two that give it up. -/
theorem get?_holders_apply (hu : s.holders.Unique) {key : String}
    (hk : s.holders.get? key = some id) (hd : r ≠ .destroy id) (hr : r ≠ .release key id) :
    (s.apply now r).2.holders.get? key = some id := by
  cases r with
  | create other ttl => exact hk
  | renew other =>
    simp only [LockStore.apply]
    split <;> exact hk
  | destroy other =>
    have hne : id ≠ other := fun heq => hd (heq ▸ rfl)
    simp [LockStore.apply, LockStore.drop, hu.get?_filter, hk, Option.filter_some_pos, hne]
  | acquire key' other =>
    simp only [LockStore.apply]
    split_ifs
    · split
      · next hfree =>
        have hne : key ≠ key' := by
          rintro rfl
          cases hfree.symm.trans hk
        simp [Table.get?_put, hne, hk]
      · exact hk
    · exact hk
  | release key' other =>
    simp only [LockStore.apply]
    split_ifs with hheld
    · have hne : key ≠ key' := by
        rintro rfl
        cases hheld.symm.trans hk
        exact hr rfl
      simp [Table.get?_erase, hne, hk]
    · exact hk
  | holder key' => exact hk
  | sessionCount => exact hk

theorem get?_sessions_reap_of_alive (h : s.WellFormed) (hv : s.sessions.get? id = some v)
    (hle : now ≤ v.expires) : (s.reap now).sessions.get? id = some v := by
  rw [get?_sessions_reap h, hv]
  exact Option.filter_some_pos (by simpa using hle)

theorem get?_holders_reap_of_alive (h : s.WellFormed) (hv : s.sessions.get? id = some v)
    (hle : now ≤ v.expires) {key : String} (hk : s.holders.get? key = some id) :
    (s.reap now).holders.get? key = some id := by
  rw [get?_holders_reap h, hk]
  exact Option.filter_some_pos (isAlive_iff.mpr ⟨v, hv, hle⟩)

theorem Request.IsFresh.reap (h : s.WellFormed) (hf : r.IsFresh s) : r.IsFresh (s.reap now) := by
  cases r with
  | create other ttl =>
    show (s.reap now).sessions.get? other = none
    rw [get?_sessions_reap h, show s.sessions.get? other = none from hf]
    rfl
  | _ => trivial

theorem exists_session_serve (h : s.WellFormed) (hf : r.IsFresh s)
    (hv : s.sessions.get? id = some v) (hle : now ≤ v.expires) (hd : r ≠ .destroy id) :
    ∃ w, (s.serve now r).2.sessions.get? id = some w ∧ w.ttl = v.ttl ∧
      (w.expires = v.expires ∨ w.expires = now + v.ttl) := by
  rcases serve_eq_apply s now r with hs | hs
  · rw [hs]
    exact exists_session_apply hf hv hd
  · rw [hs]
    exact exists_session_apply (hf.reap h) (get?_sessions_reap_of_alive h hv hle) hd

theorem get?_holders_serve (h : s.WellFormed) (hv : s.sessions.get? id = some v)
    (hle : now ≤ v.expires) {key : String} (hk : s.holders.get? key = some id)
    (hd : r ≠ .destroy id) (hr : r ≠ .release key id) :
    (s.serve now r).2.holders.get? key = some id := by
  rcases serve_eq_apply s now r with hs | hs
  · rw [hs]
    exact get?_holders_apply h.holders_unique hk hd hr
  · rw [hs]
    have hreap := get?_holders_reap_of_alive h hv hle hk
    exact get?_holders_apply (h.reap now).holders_unique hreap hd hr

theorem session_of_apply {w : Session} (hw : (s.apply now r).2.sessions.get? id = some w) :
    (∃ ttl, r = .create id ttl ∧ w = ⟨ttl, now + ttl⟩) ∨
      ∃ v, s.sessions.get? id = some v ∧
        (w = v ∨ r = .renew id ∧ w = { v with expires := now + v.ttl }) := by
  cases r with
  | create other ttl =>
    simp only [LockStore.apply, Table.get?_put] at hw
    split_ifs at hw with heq
    · cases hw
      exact .inl ⟨ttl, by rw [heq], rfl⟩
    · exact .inr ⟨w, hw, .inl rfl⟩
  | renew other =>
    simp only [LockStore.apply] at hw
    split at hw
    · exact .inr ⟨w, hw, .inl rfl⟩
    · next v hv =>
      rw [Table.get?_put] at hw
      split_ifs at hw with heq
      · cases hw
        subst heq
        exact .inr ⟨v, hv, .inr ⟨rfl, rfl⟩⟩
      · exact .inr ⟨w, hw, .inl rfl⟩
  | destroy other =>
    simp only [LockStore.apply, LockStore.drop, Table.get?_erase] at hw
    split_ifs at hw
    exact .inr ⟨w, hw, .inl rfl⟩
  | acquire key other =>
    have hsame : (s.apply now (.acquire key other)).2.sessions = s.sessions := by
      simp only [LockStore.apply]
      split_ifs
      · split <;> rfl
      · rfl
    exact .inr ⟨w, hsame ▸ hw, .inl rfl⟩
  | release key other =>
    have hsame : (s.apply now (.release key other)).2.sessions = s.sessions := by
      simp only [LockStore.apply]
      split_ifs <;> rfl
    exact .inr ⟨w, hsame ▸ hw, .inl rfl⟩
  | holder key => exact .inr ⟨w, hw, .inl rfl⟩
  | sessionCount => exact .inr ⟨w, hw, .inl rfl⟩

theorem session_of_serve (h : s.WellFormed) {w : Session}
    (hw : (s.serve now r).2.sessions.get? id = some w) :
    (∃ ttl, r = .create id ttl ∧ w = ⟨ttl, now + ttl⟩) ∨
      ∃ v, s.sessions.get? id = some v ∧
        (w = v ∨ r = .renew id ∧ now ≤ v.expires ∧ w = { v with expires := now + v.ttl }) := by
  rcases serve_cases s now r with ⟨other, ttl, rfl⟩ | ⟨other, rfl⟩ | hs
  · have hw : (s.apply now (.create other ttl)).2.sessions.get? id = some w := hw
    rcases session_of_apply hw with hc | ⟨v, hv, heq | ⟨hr, -⟩⟩
    · exact .inl hc
    · exact .inr ⟨v, hv, .inl heq⟩
    · cases hr
  · have hw : (s.apply now (.destroy other)).2.sessions.get? id = some w := hw
    rcases session_of_apply hw with ⟨ttl, hr, -⟩ | ⟨v, hv, heq | ⟨hr, -⟩⟩
    · cases hr
    · exact .inr ⟨v, hv, .inl heq⟩
    · cases hr
  · rw [hs] at hw
    rcases session_of_apply hw with hc | ⟨v, hv, hcase⟩
    · exact .inl hc
    · rw [get?_sessions_reap h, Option.filter_eq_some_iff, decide_eq_true_eq] at hv
      obtain ⟨hv, hle⟩ := hv
      refine .inr ⟨v, hv, ?_⟩
      rcases hcase with heq | ⟨hr, heq⟩
      · exact .inl heq
      · exact .inr ⟨hr, hle, heq⟩

/-- Whoever holds a key after a request has just won it, or held it before and did not give it
up. -/
theorem holder_of_apply (hu : s.holders.Unique) {key : String}
    (hk : (s.apply now r).2.holders.get? key = some id) :
    r = .acquire key id ∧ (s.apply now r).1 = .won (.ok true) ∨
      r ≠ .release key id ∧ s.holders.get? key = some id := by
  cases r with
  | create other ttl => exact .inr ⟨by rintro ⟨⟩, hk⟩
  | renew other =>
    refine .inr ⟨by rintro ⟨⟩, ?_⟩
    simp only [LockStore.apply] at hk
    split at hk <;> exact hk
  | destroy other => exact .inr ⟨by rintro ⟨⟩, hu.get?_of_filter hk⟩
  | acquire key' other =>
    simp only [LockStore.apply] at hk ⊢
    split_ifs at hk ⊢
    · split at hk
      · rw [Table.get?_put] at hk
        split_ifs at hk with heq
        · cases hk
          exact .inl ⟨by rw [heq], rfl⟩
        · exact .inr ⟨by rintro ⟨⟩, hk⟩
      · exact .inr ⟨by rintro ⟨⟩, hk⟩
    · exact .inr ⟨by rintro ⟨⟩, hk⟩
  | release key' other =>
    simp only [LockStore.apply] at hk
    split_ifs at hk with hheld
    · rw [Table.get?_erase] at hk
      split_ifs at hk with heq
      refine .inr ⟨?_, hk⟩
      rintro ⟨⟩
      exact heq rfl
    · refine .inr ⟨?_, hk⟩
      rintro ⟨⟩
      exact hheld hk
  | holder key' => exact .inr ⟨by rintro ⟨⟩, hk⟩
  | sessionCount => exact .inr ⟨by rintro ⟨⟩, hk⟩

theorem get?_holders_of_reap (h : s.WellFormed) {key : String}
    (hk : (s.reap now).holders.get? key = some id) : s.holders.get? key = some id := by
  rw [get?_holders_reap h, Option.filter_eq_some_iff] at hk
  exact hk.1

theorem holder_of_serve (h : s.WellFormed) {key : String}
    (hk : (s.serve now r).2.holders.get? key = some id) :
    r = .acquire key id ∧ (s.serve now r).1 = .won (.ok true) ∨
      r ≠ .release key id ∧ s.holders.get? key = some id := by
  rcases serve_eq_apply s now r with hs | hs
  · rw [hs] at hk ⊢
    exact holder_of_apply h.holders_unique hk
  · rw [hs] at hk ⊢
    rcases holder_of_apply (h.reap now).holders_unique hk with hwon | ⟨hne, hk⟩
    · exact .inl hwon
    · exact .inr ⟨hne, get?_holders_of_reap h hk⟩

theorem renew_of_alive (h : s.WellFormed) (hv : s.sessions.get? id = some v)
    (hle : now ≤ v.expires) :
    (s.renew now id).1 = .ok () ∧
      (s.renew now id).2.sessions.get? id = some { v with expires := now + v.ttl } := by
  have hreap := get?_sessions_reap_of_alive h hv hle
  simp [LockStore.renew, hreap, Table.get?_put]

theorem get?_holders_acquire {key : String} (hwon : (s.acquire now key id).1 = .ok true) :
    (s.acquire now key id).2.holders.get? key = some id := by
  simp only [LockStore.acquire] at hwon ⊢
  split_ifs at hwon ⊢
  cases hk : (s.reap now).holders.get? key with
  | none => simp [Table.get?_put]
  | some other =>
    simp only [hk] at hwon ⊢
    split_ifs at hwon ⊢ with heq
    · exact heq ▸ hk
    · cases hwon

theorem acquire_ne_won (h : s.WellFormed) (hv : s.sessions.get? id = some v)
    (hle : now ≤ v.expires) {key : String} (hk : s.holders.get? key = some id)
    {other : SessionId} (hne : other ≠ id) : (s.acquire now key other).1 ≠ .ok true := by
  have hreap := get?_holders_reap_of_alive h hv hle hk
  simp only [LockStore.acquire, hreap, Ne.symm hne, if_false]
  split_ifs <;> simp

end Rollcall.LockStore
