import Rollcall.Lock.Store
import Rollcall.Proofs.Data.Table
import Mathlib.Tactic

/-!
# What the operations of a lock store do

A store is well formed when its tables list nothing twice and whoever holds a key is a session that
the store still has. Reaping such a store keeps exactly the sessions that are alive and the keys
they hold, and every operation leaves it well formed.
-/

namespace Rollcall.LockStore

attribute [ext] LockStore

/-- Nothing is listed twice, and a key is held by a session that is present. -/
structure WellFormed (s : LockStore) : Prop where
  sessions_unique : s.sessions.Unique
  holders_unique : s.holders.Unique
  holder_present : ∀ key id, s.holders.get? key = some id → ∃ v, s.sessions.get? id = some v

/-- The session is present and its expiry has not passed. -/
def isAlive (s : LockStore) (now : Nat) (id : SessionId) : Bool :=
  (s.sessions.get? id).any fun v => now ≤ v.expires

variable {s : LockStore}

theorem isAlive_iff {now : Nat} {id : SessionId} :
    s.isAlive now id = true ↔ ∃ v, s.sessions.get? id = some v ∧ now ≤ v.expires := by
  simp [isAlive, Option.any_eq_true]

theorem wellFormed_empty : empty.WellFormed where
  sessions_unique := Table.unique_empty
  holders_unique := Table.unique_empty
  holder_present := by intro key id h; simp [empty] at h

theorem WellFormed.drop (h : s.WellFormed) (id : SessionId) : (s.drop id).WellFormed where
  sessions_unique := h.sessions_unique.filter _
  holders_unique := h.holders_unique.filter _
  holder_present := by
    intro key other hk
    simp only [LockStore.drop, h.holders_unique.get?_filter, Option.filter_eq_some_iff,
      decide_eq_true_eq] at hk
    obtain ⟨v, hv⟩ := h.holder_present key other hk.1
    exact ⟨v, by simpa [LockStore.drop, Table.get?_erase, hk.2] using hv⟩

theorem sessions_foldl_drop (ids : List SessionId) (s : LockStore) :
    (ids.foldl LockStore.drop s).sessions = s.sessions.filter fun id _ => id ∉ ids := by
  induction ids generalizing s with
  | nil => exact (Table.filter_eq_self (by simp)).symm
  | cons a ids ih =>
    rw [List.foldl_cons, ih]
    simp only [LockStore.drop, Table.erase, Table.filter_filter]
    exact Table.filter_congr (by simp)

theorem holders_foldl_drop (ids : List SessionId) (s : LockStore) :
    (ids.foldl LockStore.drop s).holders = s.holders.filter fun _ id => id ∉ ids := by
  induction ids generalizing s with
  | nil => exact (Table.filter_eq_self (by simp)).symm
  | cons a ids ih =>
    rw [List.foldl_cons, ih]
    simp only [LockStore.drop, Table.filter_filter]
    exact Table.filter_congr (by simp)

theorem WellFormed.foldl_drop (h : s.WellFormed) (ids : List SessionId) :
    (ids.foldl LockStore.drop s).WellFormed := by
  induction ids generalizing s with
  | nil => exact h
  | cons a ids ih => exact ih (h.drop a)

theorem WellFormed.reap (h : s.WellFormed) (now : Nat) : (s.reap now).WellFormed :=
  h.foldl_drop _

theorem mem_lapsed_iff (h : s.sessions.Unique) {now : Nat} {id : SessionId} :
    id ∈ s.lapsed now ↔ ∃ v, s.sessions.get? id = some v ∧ v.expires < now := by
  simp only [lapsed, Table.filter, List.mem_map, List.mem_filter, decide_eq_true_eq]
  constructor
  · rintro ⟨⟨a, v⟩, ⟨hm, hv⟩, rfl⟩
    exact ⟨v, h.get?_of_mem hm, hv⟩
  · rintro ⟨v, hm, hv⟩
    exact ⟨(id, v), ⟨Table.mem_entries_of_get? hm, hv⟩, rfl⟩

theorem sessions_reap (h : s.sessions.Unique) (now : Nat) :
    (s.reap now).sessions = s.sessions.filter fun _ v => now ≤ v.expires := by
  unfold LockStore.reap
  rw [sessions_foldl_drop]
  apply Table.filter_congr
  rintro ⟨id, v⟩ hm
  have hv := h.get?_of_mem hm
  simp [mem_lapsed_iff h, hv]

theorem holders_reap (h : s.WellFormed) (now : Nat) :
    (s.reap now).holders = s.holders.filter fun _ id => s.isAlive now id := by
  unfold LockStore.reap
  rw [holders_foldl_drop]
  apply Table.filter_congr
  rintro ⟨key, id⟩ hm
  obtain ⟨v, hv⟩ := h.holder_present key id (h.holders_unique.get?_of_mem hm)
  simp [mem_lapsed_iff h.sessions_unique, isAlive, hv]

theorem get?_sessions_reap (h : s.WellFormed) (now : Nat) (id : SessionId) :
    (s.reap now).sessions.get? id = (s.sessions.get? id).filter fun v => now ≤ v.expires := by
  rw [sessions_reap h.sessions_unique, h.sessions_unique.get?_filter]

theorem get?_holders_reap (h : s.WellFormed) (now : Nat) (key : String) :
    (s.reap now).holders.get? key = (s.holders.get? key).filter (s.isAlive now) := by
  rw [holders_reap h, h.holders_unique.get?_filter]

/-- Of a store that is reaped at `now`, a session is present exactly if it is alive. -/
theorem contains_reap (h : s.WellFormed) (now : Nat) (id : SessionId) :
    (s.reap now).sessions.contains id = s.isAlive now id := by
  rw [Bool.eq_iff_iff, Table.contains_iff, isAlive_iff]
  simp [get?_sessions_reap h, Option.filter_eq_some_iff]

theorem isAlive_reap (h : s.WellFormed) {now later : Nat} (hl : now ≤ later) (id : SessionId) :
    (s.reap now).isAlive later id = s.isAlive later id := by
  rw [Bool.eq_iff_iff, isAlive_iff, isAlive_iff, get?_sessions_reap h]
  simp only [Option.filter_eq_some_iff, decide_eq_true_eq]
  constructor
  · rintro ⟨v, ⟨hv, -⟩, hl⟩
    exact ⟨v, hv, hl⟩
  · rintro ⟨v, hv, hl'⟩
    exact ⟨v, ⟨hv, hl.trans hl'⟩, hl'⟩

theorem reap_reap (h : s.WellFormed) {now later : Nat} (hl : now ≤ later) :
    (s.reap now).reap later = s.reap later := by
  have hr := h.reap now
  apply LockStore.ext
  · rw [sessions_reap hr.sessions_unique, sessions_reap h.sessions_unique,
      sessions_reap h.sessions_unique, Table.filter_filter]
    refine Table.filter_congr fun e _ => ?_
    rw [Bool.eq_iff_iff]
    simp only [Bool.and_eq_true, decide_eq_true_eq, and_iff_right_iff_imp]
    exact hl.trans
  · rw [holders_reap hr, holders_reap h, holders_reap h, Table.filter_filter]
    refine Table.filter_congr fun e _ => ?_
    rw [isAlive_reap h hl, Bool.eq_iff_iff]
    simp only [Bool.and_eq_true, and_iff_right_iff_imp, isAlive_iff]
    rintro ⟨v, hv, hlv⟩
    exact ⟨v, hv, hl.trans hlv⟩

/-- No session of the store has lapsed. -/
def Current (s : LockStore) (now : Nat) : Prop :=
  ∀ id v, s.sessions.get? id = some v → now ≤ v.expires

theorem WellFormed.current_reap (h : s.WellFormed) (now : Nat) : (s.reap now).Current now := by
  intro id v hv
  rw [get?_sessions_reap h, Option.filter_eq_some_iff] at hv
  simpa using hv.2

theorem reap_eq_self (h : s.WellFormed) {now : Nat} (hc : s.Current now) : s.reap now = s := by
  apply LockStore.ext
  · rw [sessions_reap h.sessions_unique]
    refine Table.filter_eq_self fun e he => ?_
    simpa using hc e.1 e.2 (h.sessions_unique.get?_of_mem he)
  · rw [holders_reap h]
    refine Table.filter_eq_self fun e he => ?_
    obtain ⟨v, hv⟩ := h.holder_present e.1 e.2 (h.holders_unique.get?_of_mem he)
    exact isAlive_iff.mpr ⟨v, hv, hc e.2 v hv⟩

end Rollcall.LockStore
