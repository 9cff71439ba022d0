import Rollcall.Proofs.Lock.Store

/-!
# Requests to a lock store

The calls on a store as data, so that a run of a store is a list. Serving a request is compared with
carrying it out on a store in which nothing has lapsed, where no reaping is called for: whatever a
store still lists of the past, it answers as the reaped store would, and is afterwards what the
reaped store would be.
-/

namespace Rollcall.LockStore

inductive Request where
  | create (id : SessionId) (ttl : Nat)
  | renew (id : SessionId)
  | destroy (id : SessionId)
  | acquire (key : String) (id : SessionId)
  | release (key : String) (id : SessionId)
  | holder (key : String)
  | sessionCount
  deriving DecidableEq, Repr

inductive Reply where
  | created (id : SessionId)
  | done (outcome : Except Error Unit)
  | won (outcome : Except Error Bool)
  | heldBy (id : Option SessionId)
  | count (n : Nat)

/-- What a store replies to a request at an instant, and the store after it. -/
def serve (s : LockStore) (now : Nat) : Request → Reply × LockStore
  | .create id ttl => (.created id, s.create now id ttl)
  | .renew id => let (r, s) := s.renew now id; (.done r, s)
  | .destroy id => (.done (.ok ()), s.drop id)
  | .acquire key id => let (r, s) := s.acquire now key id; (.won r, s)
  | .release key id => (.done (.ok ()), s.release now key id)
  | .holder key => let (r, s) := s.holder now key; (.heldBy r, s)
  | .sessionCount => let (r, s) := s.sessionCount now; (.count r, s)

/-- Carry out a request without looking for lapsed sessions first. -/
def apply (s : LockStore) (now : Nat) : Request → Reply × LockStore
  | .create id ttl => (.created id, { s with sessions := s.sessions.put id ⟨ttl, now + ttl⟩ })
  | .renew id =>
    match s.sessions.get? id with
    | none => (.done (.error (.notFound s!"session {id}")), s)
    | some v =>
      (.done (.ok ()), { s with sessions := s.sessions.put id { v with expires := now + v.ttl } })
  | .destroy id => (.done (.ok ()), s.drop id)
  | .acquire key id =>
    if s.sessions.contains id then
      match s.holders.get? key with
      | none => (.won (.ok true), { s with holders := s.holders.put key id })
      | some h => (.won (.ok (h = id)), s)
    else (.won (.error (.internal s!"invalid session {id}")), s)
  | .release key id =>
    (.done (.ok ()),
      if s.holders.get? key = some id then { s with holders := s.holders.erase key } else s)
  | .holder key => (.heldBy (s.holders.get? key), s)
  | .sessionCount => (.count s.sessions.size, s)

/-- The id under which a request creates a session. -/
def Request.created? : Request → Option SessionId
  | .create id _ => some id
  | _ => none

def Request.IsFresh (s : LockStore) : Request → Prop
  | .create id _ => s.sessions.get? id = none
  | _ => True

variable {s : LockStore}

theorem WellFormed.putSession (h : s.WellFormed) (id : SessionId) (v : Session) :
    WellFormed { s with sessions := s.sessions.put id v } where
  sessions_unique := h.sessions_unique.put id v
  holders_unique := h.holders_unique
  holder_present := by
    intro key other hk
    obtain ⟨w, hw⟩ := h.holder_present key other hk
    rw [Table.get?_put]
    split
    · exact ⟨v, rfl⟩
    · exact ⟨w, hw⟩

theorem WellFormed.bind (h : s.WellFormed) (key : String) {id : SessionId}
    (hid : s.sessions.contains id = true) :
    WellFormed { s with holders := s.holders.put key id } where
  sessions_unique := h.sessions_unique
  holders_unique := h.holders_unique.put key id
  holder_present := by
    intro key' other hk
    rw [Table.get?_put] at hk
    split at hk
    · cases hk
      exact Table.contains_iff.mp hid
    · exact h.holder_present key' other hk

theorem WellFormed.unbind (h : s.WellFormed) (key : String) :
    WellFormed { s with holders := s.holders.erase key } where
  sessions_unique := h.sessions_unique
  holders_unique := h.holders_unique.filter _
  holder_present := by
    intro key' other hk
    rw [Table.get?_erase] at hk
    split at hk
    · cases hk
    · exact h.holder_present key' other hk

theorem WellFormed.apply (h : s.WellFormed) (now : Nat) (r : Request) :
    (s.apply now r).2.WellFormed := by
  cases r with
  | create id ttl => exact h.putSession id _
  | renew id =>
    simp only [LockStore.apply]
    split
    · exact h
    · exact h.putSession id _
  | destroy id => exact h.drop id
  | acquire key id =>
    simp only [LockStore.apply]
    split_ifs with hid
    · split
      · exact h.bind key hid
      · exact h
    · exact h
  | release key id =>
    simp only [LockStore.apply]
    split_ifs
    · exact h.unbind key
    · exact h
  | holder key => exact h
  | sessionCount => exact h

theorem Current.putSession {now : Nat} (hc : s.Current now) (id : SessionId) {v : Session}
    (hv : now ≤ v.expires) : Current { s with sessions := s.sessions.put id v } now := by
  intro other w hw
  rw [Table.get?_put] at hw
  split at hw
  · cases hw
    exact hv
  · exact hc other w hw

theorem Current.drop {now : Nat} (hc : s.Current now) (id : SessionId) :
    (s.drop id).Current now := by
  intro other w hw
  simp only [LockStore.drop, Table.get?_erase] at hw
  split at hw
  · cases hw
  · exact hc other w hw

theorem Current.apply {now : Nat} (hc : s.Current now) (r : Request) :
    (s.apply now r).2.Current now := by
  cases r with
  | create id ttl => exact hc.putSession id (Nat.le_add_right now ttl)
  | renew id =>
    simp only [LockStore.apply]
    split
    · exact hc
    · exact hc.putSession id (Nat.le_add_right now _)
  | destroy id => exact hc.drop id
  | acquire key id =>
    simp only [LockStore.apply]
    split_ifs
    · split <;> exact hc
    · exact hc
  | release key id =>
    simp only [LockStore.apply]
    split_ifs <;> exact hc
  | holder key => exact hc
  | sessionCount => exact hc

/-- Only the creation and the destruction of a session are not served on the reaped store. -/
theorem serve_cases (s : LockStore) (now : Nat) (r : Request) :
    (∃ id ttl, r = .create id ttl) ∨ (∃ id, r = .destroy id) ∨
      s.serve now r = (s.reap now).apply now r := by
  cases r with
  | create id ttl => exact .inl ⟨id, ttl, rfl⟩
  | destroy id => exact .inr (.inl ⟨id, rfl⟩)
  | renew id =>
    right; right
    simp only [serve, LockStore.renew, LockStore.apply]
    cases hv : (s.reap now).sessions.get? id <;> rfl
  | acquire key id =>
    right; right
    simp only [serve, LockStore.acquire, LockStore.apply]
    split_ifs
    · split
      · next holder hk =>
        by_cases hh : holder = id
        · simp [hk, hh]
        · simp [hk, hh]
      · next hk => simp [hk]
    · rfl
  | release key id => exact .inr (.inr rfl)
  | holder key => exact .inr (.inr rfl)
  | sessionCount => exact .inr (.inr rfl)

theorem reap_create (h : s.WellFormed) (now : Nat) {id : SessionId} (ttl : Nat)
    (hf : s.sessions.get? id = none) :
    (s.create now id ttl).reap now = (s.reap now).create now id ttl := by
  have hw : (s.create now id ttl).WellFormed := h.putSession id _
  apply LockStore.ext
  · rw [sessions_reap hw.sessions_unique]
    simp only [LockStore.create, Table.filter_put, Nat.le_add_right, decide_true, if_true]
    rw [sessions_reap h.sessions_unique]
  · rw [holders_reap hw]
    simp only [LockStore.create]
    rw [holders_reap h]
    refine Table.filter_congr fun e he => ?_
    obtain ⟨v, hv⟩ := h.holder_present e.1 e.2 (h.holders_unique.get?_of_mem he)
    -- a holder is present, so it is not the session that is being created
    have hne : e.2 ≠ id := by
      intro heq
      rw [heq, hf] at hv
      cases hv
    simp [isAlive, Table.get?_put, hne]

theorem reap_drop (h : s.WellFormed) (now : Nat) (id : SessionId) :
    (s.drop id).reap now = (s.reap now).drop id := by
  have hw := h.drop id
  apply LockStore.ext
  · rw [sessions_reap hw.sessions_unique]
    simp only [LockStore.drop]
    rw [sessions_reap h.sessions_unique, Table.filter_erase]
  · rw [holders_reap hw]
    simp only [LockStore.drop]
    rw [holders_reap h, Table.filter_filter, Table.filter_filter]
    refine Table.filter_congr fun e _ => ?_
    by_cases heq : e.2 = id
    · simp [heq]
    · simp [isAlive, Table.get?_erase, heq]

/-- A store replies as the reaped store would, and leaves what the reaped store would leave. -/
theorem serve_reap (h : s.WellFormed) (now : Nat) {r : Request} (hf : r.IsFresh s) :
    (s.serve now r).1 = ((s.reap now).apply now r).1 ∧
      (s.serve now r).2.reap now = ((s.reap now).apply now r).2 := by
  rcases serve_cases s now r with ⟨id, ttl, rfl⟩ | ⟨id, rfl⟩ | hs
  · exact ⟨rfl, reap_create h now ttl hf⟩
  · exact ⟨rfl, reap_drop h now id⟩
  · rw [hs]
    exact ⟨rfl, reap_eq_self ((h.reap now).apply now r) ((h.current_reap now).apply r)⟩

theorem serve_eq_apply (s : LockStore) (now : Nat) (r : Request) :
    s.serve now r = s.apply now r ∨ s.serve now r = (s.reap now).apply now r := by
  rcases serve_cases s now r with ⟨id, ttl, rfl⟩ | ⟨id, rfl⟩ | hs
  · exact .inl rfl
  · exact .inl rfl
  · exact .inr hs

theorem WellFormed.serve (h : s.WellFormed) (now : Nat) (r : Request) :
    (s.serve now r).2.WellFormed := by
  rcases serve_eq_apply s now r with hs | hs
  · rw [hs]
    exact h.apply now r
  · rw [hs]
    exact (h.reap now).apply now r

theorem get?_sessions_apply_eq_none {now : Nat} {r : Request} {id : SessionId}
    (hid : s.sessions.get? id = none) (hr : r.created? ≠ some id) :
    (s.apply now r).2.sessions.get? id = none := by
  cases r with
  | create other ttl =>
    have hne : id ≠ other := fun heq => hr (congrArg some heq.symm)
    simp [LockStore.apply, Table.get?_put, hne, hid]
  | renew other =>
    simp only [LockStore.apply]
    split
    · exact hid
    · next v hv =>
      have hne : id ≠ other := by
        rintro rfl
        cases hid.symm.trans hv
      simp [Table.get?_put, hne, hid]
  | destroy other => simp [LockStore.apply, LockStore.drop, Table.get?_erase, hid]
  | acquire key other =>
    simp only [LockStore.apply]
    split_ifs
    · split <;> exact hid
    · exact hid
  | release key other =>
    simp only [LockStore.apply]
    split_ifs <;> exact hid
  | holder key => exact hid
  | sessionCount => exact hid

theorem get?_sessions_serve_eq_none (h : s.WellFormed) (now : Nat) {r : Request} {id : SessionId}
    (hid : s.sessions.get? id = none) (hr : r.created? ≠ some id) :
    (s.serve now r).2.sessions.get? id = none := by
  rcases serve_eq_apply s now r with hs | hs
  · rw [hs]
    exact get?_sessions_apply_eq_none hid hr
  · have hreap : (s.reap now).sessions.get? id = none := by
      rw [get?_sessions_reap h, hid]
      rfl
    rw [hs]
    exact get?_sessions_apply_eq_none hreap hr

theorem exists_session_of_renewed {now : Nat} {id : SessionId}
    (hr : (s.serve now (.renew id)).1 = .done (.ok ())) :
    ∃ v, (s.reap now).sessions.get? id = some v := by
  cases hv : (s.reap now).sessions.get? id with
  | some v => exact ⟨v, rfl⟩
  | none => simp [LockStore.serve, LockStore.renew, hv] at hr

end Rollcall.LockStore
