import Rollcall.Proofs.Lock.Request

/-!
# Lazy expiry is as good as eager expiry

An eager store has a clock of its own. Whenever the clock passes the expiry of a session, at that
very instant the session is removed, and every key it holds with it. Against it stands the store
that removes lapsed sessions only when an operation comes to look for them: on every sequence of
calls the two give the same replies.
-/

namespace Rollcall

structure EagerStore where
  now : Nat := 0
  content : LockStore := .empty

namespace EagerStore

open LockStore (Request Reply)

def lapsesNext (e : EagerStore) (id : SessionId) : Bool :=
  (e.content.sessions.get? id).any fun v => v.expires < e.now + 1

def tick (e : EagerStore) : EagerStore where
  now := e.now + 1
  content :=
    { sessions := e.content.sessions.filter fun id _ => !e.lapsesNext id
      holders := e.content.holders.filter fun _ id => !e.lapsesNext id }

def passTo (e : EagerStore) (target : Nat) : EagerStore := tick^[target - e.now] e

/-- What the store replies to a request at an instant, and the store after it. -/
def serve (e : EagerStore) (now : Nat) (r : Request) : Reply × EagerStore :=
  let e := e.passTo now
  let (reply, content) := e.content.apply e.now r
  (reply, { e with content })

def replies (e : EagerStore) : List (Nat × Request) → List Reply
  | [] => []
  | (now, r) :: rest => (e.serve now r).1 :: (e.serve now r).2.replies rest

/-- The eager store has what the lazy one has when it is reaped. -/
def Mirrors (e : EagerStore) (s : LockStore) : Prop := e.content = s.reap e.now

variable {e : EagerStore} {s : LockStore}

theorem mirrors_tick (h : s.WellFormed) (hm : e.Mirrors s) : e.tick.Mirrors s := by
  have hw : e.content.WellFormed := hm ▸ h.reap e.now
  have hnext : s.reap (e.now + 1) = e.content.reap (e.now + 1) := by
    rw [show e.content = s.reap e.now from hm, LockStore.reap_reap h (Nat.le_succ e.now)]
  show e.tick.content = s.reap (e.now + 1)
  rw [hnext]
  apply LockStore.ext
  · simp only [tick, LockStore.sessions_reap hw.sessions_unique]
    refine Table.filter_congr fun entry he => ?_
    have hv := hw.sessions_unique.get?_of_mem he
    simp only [lapsesNext, hv, Option.any_some, ← decide_not, not_lt]
  · simp only [tick, LockStore.holders_reap hw]
    refine Table.filter_congr fun entry he => ?_
    obtain ⟨v, hv⟩ := hw.holder_present _ _ (hw.holders_unique.get?_of_mem he)
    simp only [lapsesNext, LockStore.isAlive, hv, Option.any_some, ← decide_not, not_lt]

theorem mirrors_iterate_tick (h : s.WellFormed) (hm : e.Mirrors s) (n : Nat) :
    (tick^[n] e).Mirrors s ∧ (tick^[n] e).now = e.now + n := by
  induction n with
  | zero => exact ⟨hm, rfl⟩
  | succ n ih =>
    rw [Function.iterate_succ_apply']
    refine ⟨mirrors_tick h ih.1, ?_⟩
    show (tick^[n] e).now + 1 = e.now + (n + 1)
    omega

/-- The passing of time leaves the two stores in agreement. -/
theorem mirrors_passTo (h : s.WellFormed) (hm : e.Mirrors s) {target : Nat}
    (ht : e.now ≤ target) : (e.passTo target).Mirrors s ∧ (e.passTo target).now = target := by
  obtain ⟨hmirrors, hnow⟩ := mirrors_iterate_tick h hm (target - e.now)
  refine ⟨hmirrors, hnow.trans ?_⟩
  omega

theorem mirrors_serve (h : s.WellFormed) (hm : e.Mirrors s) {now : Nat} (ht : e.now ≤ now)
    {r : Request} (hf : r.IsFresh s) :
    (s.serve now r).1 = (e.serve now r).1 ∧ (e.serve now r).2.Mirrors (s.serve now r).2 ∧
      (e.serve now r).2.now = now := by
  obtain ⟨hmirrors, hnow⟩ := mirrors_passTo h hm ht
  obtain ⟨hreply, hafter⟩ := LockStore.serve_reap h now hf
  have hcontent : (e.passTo now).content = s.reap now := by
    have : (e.passTo now).content = s.reap (e.passTo now).now := hmirrors
    rwa [hnow] at this
  refine ⟨?_, ?_, hnow⟩
  · rw [hreply]
    simp only [serve, hnow, hcontent]
  · show ((e.passTo now).content.apply (e.passTo now).now r).2 =
      (s.serve now r).2.reap (e.passTo now).now
    rw [hnow, hcontent, hafter]

end EagerStore

namespace LockStore

def replies (s : LockStore) : List (Nat × Request) → List Reply
  | [] => []
  | (now, r) :: rest => (s.serve now r).1 :: (s.serve now r).2.replies rest

def after (s : LockStore) : List (Nat × Request) → LockStore
  | [] => s
  | (now, r) :: rest => (s.serve now r).2.after rest

variable {s : LockStore}

theorem WellFormed.after (h : s.WellFormed) (calls : List (Nat × Request)) :
    (s.after calls).WellFormed := by
  induction calls generalizing s with
  | nil => exact h
  | cons c calls ih => exact ih (h.serve c.1 c.2)

/-- Stores that agree give the same replies, as long as time does not run backwards and every
created session gets an id that is new. -/
theorem replies_eq_of_mirrors {calls : List (Nat × Request)} (h : s.WellFormed) {e : EagerStore}
    (hm : e.Mirrors s) (hstart : ∀ c ∈ calls, e.now ≤ c.1)
    (ht : calls.Pairwise fun a b => a.1 ≤ b.1)
    (hf : (calls.filterMap fun c => c.2.created?).Nodup)
    (hnew : ∀ id ∈ calls.filterMap fun c => c.2.created?, s.sessions.get? id = none) :
    s.replies calls = e.replies calls := by
  induction calls generalizing s e with
  | nil => rfl
  | cons c calls ih =>
    obtain ⟨now, r⟩ := c
    have hfresh : r.IsFresh s := by
      cases r with
      | create id ttl => exact hnew id (by simp [Request.created?])
      | _ => trivial
    obtain ⟨hreply, hmirrors, hnow⟩ :=
      EagerStore.mirrors_serve h hm (hstart _ List.mem_cons_self) hfresh
    rw [List.pairwise_cons] at ht
    simp only [replies, EagerStore.replies, hreply]
    congr 1
    apply ih (h.serve now r) hmirrors
    · intro c hc
      rw [hnow]
      exact ht.1 c hc
    · exact ht.2
    · cases hr : r.created? with
      | none => simpa [hr] using hf
      | some id => simp_all
    · intro id hid
      apply get?_sessions_serve_eq_none h now
      · apply hnew
        cases hr : r.created? <;> simp_all
      · intro hr
        simp only [List.filterMap_cons, hr, List.nodup_cons] at hf
        exact hf.1 hid

/-- Whatever the calls, a store that finds out late which sessions have lapsed replies like one
from which they are removed on time. A key is never left bound to a session that is gone. -/
theorem replies_eq_eager {calls : List (Nat × Request)} (ht : calls.Pairwise fun a b => a.1 ≤ b.1)
    (hf : (calls.filterMap fun c => c.2.created?).Nodup) :
    empty.replies calls = ({} : EagerStore).replies calls ∧
      ∀ key id, (empty.after calls).holders.get? key = some id →
        (empty.after calls).sessions.contains id = true := by
  constructor
  · exact replies_eq_of_mirrors wellFormed_empty rfl (fun _ _ => Nat.zero_le _) ht hf
      fun _ _ => rfl
  · intro key id hk
    exact Table.contains_iff.mpr ((wellFormed_empty.after calls).holder_present key id hk)

/-- At the instant of its expiry a session still holds its key; an instant later two sessions have
lapsed at once, one of them unnoticed by the creation that comes between. -/
theorem replies_eq_eager_about_expiry :
    let calls : List (Nat × Request) :=
      [(0, .create ⟨"a"⟩ 10), (0, .create ⟨"b"⟩ 10), (0, .acquire "k" ⟨"a"⟩),
        (10, .holder "k"), (11, .create ⟨"c"⟩ 5), (11, .acquire "k" ⟨"c"⟩), (11, .renew ⟨"a"⟩),
        (11, .sessionCount)]
    empty.replies calls =
        [.created ⟨"a"⟩, .created ⟨"b"⟩, .won (.ok true), .heldBy (some ⟨"a"⟩), .created ⟨"c"⟩,
          .won (.ok true), .done (.error (.notFound "session a")), .count 1] ∧
      empty.replies calls = ({} : EagerStore).replies calls :=
  ⟨rfl, (replies_eq_eager (by decide) (by decide)).1⟩

end LockStore

end Rollcall
