import Rollcall.Proofs.History
import Rollcall.Proofs.Lock.Request

/-!
# Runs of a lock store

A run is any sequence of calls on a store that begins empty, made at times that do not decrease,
in which no two sessions are created under one id. Of a run only the history is needed: which
sessions stand and until when they last, and which session has taken which key, is all said by the
calls and their replies. What the store still lists of it once it is reaped is exactly what has not
lapsed.
-/

namespace Rollcall.LockStore

abbrev Answered := Rollcall.Answered Request Reply

abbrev History := Rollcall.History Request Reply

/-- The request creates no session under an id that the history knows already. -/
def Request.IsNew (h : History) (r : Request) : Prop :=
  ∀ id ttl ttl', r = .create id ttl → ∀ e ∈ h, e.request ≠ .create id ttl'

/-- The histories of a store, with the time of the last call and the store after it. -/
inductive Run : History → Nat → LockStore → Prop
  | start : Run [] 0 .empty
  | call {h last s now} (run : Run h last s) (hnow : last ≤ now) (r : Request) (hr : r.IsNew h) :
      Run (⟨now, r, (s.serve now r).1⟩ :: h) now (s.serve now r).2

/-- The session was created and has not been destroyed since. -/
def Stands (h : History) (id : SessionId) : Prop :=
  h.Since (fun e => e.request ≠ .destroy id) fun e => ∃ ttl, e.request = .create id ttl

/-- The session took the key and has neither released it nor been destroyed since. -/
def HasTaken (h : History) (key : String) (id : SessionId) : Prop :=
  h.Since (fun e => e.request ≠ .release key id ∧ e.request ≠ .destroy id)
    fun e => e.request = .acquire key id ∧ e.reply = .won (.ok true)

/-- The lease of a session: its time to live, and the instant that lies so long after its creation
or its latest successful renewal. -/
def lease? : History → SessionId → Option Session
  | [], _ => none
  | e :: h, id =>
    match e.request, e.reply with
    | .create other ttl, _ => if other = id then some ⟨ttl, e.time + ttl⟩ else lease? h id
    | .renew other, .done (.ok ()) =>
      if other = id then (lease? h id).map fun v => { v with expires := e.time + v.ttl }
      else lease? h id
    | _, _ => lease? h id

/-- The moment lies more than its time to live after the session was created or last renewed. -/
def Overdue (h : History) (id : SessionId) (moment : Nat) : Prop :=
  ∃ v, lease? (h.asOf moment) id = some v ∧ v.expires < moment

variable {h : History} {s : LockStore}

theorem stands_cons {t : Nat} {r : Request} {y : Reply} {id : SessionId} :
    Stands (⟨t, r, y⟩ :: h) id ↔ (∃ ttl, r = .create id ttl) ∨ r ≠ .destroy id ∧ Stands h id :=
  History.since_cons

theorem hasTaken_cons {t : Nat} {r : Request} {y : Reply} {key : String} {id : SessionId} :
    HasTaken (⟨t, r, y⟩ :: h) key id ↔
      (r = .acquire key id ∧ y = .won (.ok true)) ∨
        (r ≠ .release key id ∧ r ≠ .destroy id) ∧ HasTaken h key id :=
  History.since_cons

theorem lease?_cons_of_ne {t : Nat} {r : Request} {y : Reply} {id : SessionId}
    (hc : ∀ ttl, r ≠ .create id ttl) (hr : r = .renew id → y ≠ .done (.ok ())) :
    lease? (⟨t, r, y⟩ :: h) id = lease? h id := by
  cases r with
  | create other ttl =>
    refine if_neg ?_
    rintro rfl
    exact hc ttl rfl
  | renew other =>
    cases y with
    | done outcome =>
      cases outcome with
      | error e => rfl
      | ok u =>
        refine if_neg ?_
        rintro rfl
        exact hr rfl rfl
    | _ => rfl
  | _ => rfl

theorem exists_create_of_lease {id : SessionId} {v : Session} (hv : lease? h id = some v) :
    ∃ e ∈ h, ∃ ttl, e.request = .create id ttl := by
  induction h generalizing v with
  | nil => cases hv
  | cons e h ih =>
    have hlater : (∃ w, lease? h id = some w) →
        ∃ x ∈ e :: h, ∃ ttl, x.request = .create id ttl := by
      rintro ⟨w, hw⟩
      obtain ⟨x, hx, hreq⟩ := ih hw
      exact ⟨x, List.mem_cons_of_mem _ hx, hreq⟩
    unfold lease? at hv
    split at hv
    · next other ttl hreq =>
      split_ifs at hv with heq
      · exact ⟨e, List.mem_cons_self, ttl, heq ▸ hreq⟩
      · exact hlater ⟨v, hv⟩
    · split_ifs at hv
      · obtain ⟨w, hw, -⟩ := Option.map_eq_some_iff.mp hv
        exact hlater ⟨w, hw⟩
      · exact hlater ⟨v, hv⟩
    · exact hlater ⟨v, hv⟩

theorem exists_lease_of_stands {id : SessionId} (hs : Stands h id) :
    ∃ v, lease? h id = some v := by
  induction h with
  | nil => exact absurd hs History.not_since_nil
  | cons e h ih =>
    obtain ⟨t, r, y⟩ := e
    unfold lease?
    rcases stands_cons.mp hs with ⟨ttl, rfl⟩ | ⟨-, hs⟩
    · exact ⟨_, if_pos rfl⟩
    · obtain ⟨v, hv⟩ := ih hs
      split
      · split_ifs <;> exact ⟨_, by first | rfl | exact hv⟩
      · split_ifs
        · exact ⟨_, by rw [hv]; rfl⟩
        · exact ⟨v, hv⟩
      · exact ⟨v, hv⟩

/-- The store lists the sessions whose lease has not run out, and the keys that they have taken. -/
structure Agrees (h : History) (now : Nat) (s : LockStore) : Prop where
  session_iff : ∀ id v, s.sessions.get? id = some v ↔
    Stands h id ∧ lease? h id = some v ∧ now ≤ v.expires
  holder_iff : ∀ key id, s.holders.get? key = some id ↔
    HasTaken h key id ∧ s.sessions.contains id = true
  stands : ∀ key id, HasTaken h key id → Stands h id

theorem agrees_start : Agrees [] 0 empty where
  session_iff := by
    intro id v
    simp [empty, Stands, History.not_since_nil]
  holder_iff := by
    intro key id
    simp [empty, HasTaken, History.not_since_nil]
  stands := fun key id ht => absurd ht History.not_since_nil

/-- Time passes: more sessions have lapsed, and the history says so too. -/
theorem Agrees.reap {last now : Nat} (ha : Agrees h last s) (hw : s.WellFormed)
    (hn : last ≤ now) : Agrees h now (s.reap now) where
  session_iff := by
    intro id v
    rw [get?_sessions_reap hw, Option.filter_eq_some_iff, ha.session_iff, decide_eq_true_eq]
    constructor
    · rintro ⟨⟨hs, hv, -⟩, hle⟩
      exact ⟨hs, hv, hle⟩
    · rintro ⟨hs, hv, hle⟩
      exact ⟨⟨hs, hv, hn.trans hle⟩, hle⟩
  holder_iff := by
    intro key id
    rw [get?_holders_reap hw, Option.filter_eq_some_iff, ha.holder_iff, contains_reap hw]
    constructor
    · rintro ⟨⟨ht, -⟩, hal⟩
      exact ⟨ht, hal⟩
    · rintro ⟨ht, hal⟩
      obtain ⟨v, hv, -⟩ := isAlive_iff.mp hal
      exact ⟨⟨ht, Table.contains_iff.mpr ⟨v, hv⟩⟩, hal⟩
  stands := ha.stands

variable {now : Nat}

theorem Agrees.idle (ha : Agrees h now s) {r : Request} {y : Reply}
    (hc : ∀ id ttl, r ≠ .create id ttl) (hd : ∀ id, r ≠ .destroy id)
    (hl : ∀ id, lease? (⟨now, r, y⟩ :: h) id = lease? h id)
    (ht : ∀ key id, HasTaken (⟨now, r, y⟩ :: h) key id ∧ s.sessions.contains id = true ↔
      HasTaken h key id ∧ s.sessions.contains id = true)
    (hs : ∀ key id, HasTaken (⟨now, r, y⟩ :: h) key id → Stands h id) :
    Agrees (⟨now, r, y⟩ :: h) now s := by
  have hstands : ∀ id, Stands (⟨now, r, y⟩ :: h) id ↔ Stands h id := by
    intro id
    rw [stands_cons]
    simp [hc, hd]
  refine ⟨fun id v => ?_, fun key id => ?_, fun key id hk => ?_⟩
  · rw [hstands, hl, ha.session_iff]
  · rw [ht, ha.holder_iff]
  · exact (hstands id).mpr (hs key id hk)

theorem Agrees.create (ha : Agrees h now s) {id : SessionId} {ttl : Nat}
    (hnew : Request.IsNew h (.create id ttl)) :
    Agrees (⟨now, .create id ttl, .created id⟩ :: h) now
      { s with sessions := s.sessions.put id ⟨ttl, now + ttl⟩ } := by
  have hunknown : ¬ Stands h id := by
    intro hs
    obtain ⟨e, he, ttl', hreq⟩ := hs.exists_mem
    exact hnew id ttl ttl' rfl e he hreq
  have htaken : ∀ key other, HasTaken (⟨now, .create id ttl, .created id⟩ :: h) key other ↔
      HasTaken h key other := by
    intro key other
    simp [hasTaken_cons]
  refine ⟨fun other v => ?_, fun key other => ?_, fun key other hk => ?_⟩
  · rw [Table.get?_put, stands_cons]
    by_cases heq : other = id
    · subst heq
      simp only [if_true, lease?, Option.some.injEq]
      constructor
      · rintro rfl
        exact ⟨.inl ⟨ttl, rfl⟩, rfl, Nat.le_add_right now ttl⟩
      · exact fun hv => hv.2.1
    · simp [heq, Ne.symm heq, lease?, ha.session_iff]
  · rw [ha.holder_iff, htaken, Table.contains_iff, Table.contains_iff]
    refine and_congr_right fun hk => ?_
    have hne : other ≠ id := by
      rintro rfl
      exact hunknown (ha.stands key other hk)
    simp [Table.get?_put, hne]
  · exact stands_cons.mpr (.inr ⟨by simp, ha.stands key other ((htaken key other).mp hk)⟩)

theorem Agrees.renew (ha : Agrees h now s) {id : SessionId} {v : Session}
    (hv : s.sessions.get? id = some v) :
    Agrees (⟨now, .renew id, .done (.ok ())⟩ :: h) now
      { s with sessions := s.sessions.put id { v with expires := now + v.ttl } } := by
  have htaken : ∀ key other, HasTaken (⟨now, .renew id, .done (.ok ())⟩ :: h) key other ↔
      HasTaken h key other := by
    intro key other
    simp [hasTaken_cons]
  have hstands : ∀ other, Stands (⟨now, .renew id, .done (.ok ())⟩ :: h) other ↔
      Stands h other := by
    intro other
    simp [stands_cons]
  obtain ⟨hs, hlease, -⟩ := (ha.session_iff id v).mp hv
  refine ⟨fun other w => ?_, fun key other => ?_, fun key other hk => ?_⟩
  · rw [Table.get?_put, hstands]
    by_cases heq : other = id
    · subst heq
      simp only [if_true, lease?, hlease, Option.map_some, Option.some.injEq]
      constructor
      · rintro rfl
        exact ⟨hs, rfl, Nat.le_add_right now v.ttl⟩
      · exact fun hw => hw.2.1
    · simp [heq, Ne.symm heq, lease?, ha.session_iff]
  · rw [ha.holder_iff, htaken, Table.contains_iff, Table.contains_iff]
    refine and_congr_right fun _ => ?_
    by_cases heq : other = id
    · subst heq
      simp [Table.get?_put, hv]
    · simp [Table.get?_put, heq]
  · exact (hstands other).mpr (ha.stands key other ((htaken key other).mp hk))

theorem Agrees.destroy (ha : Agrees h now s) (hw : s.WellFormed) (id : SessionId) :
    Agrees (⟨now, .destroy id, .done (.ok ())⟩ :: h) now (s.drop id) := by
  have hstands : ∀ other, Stands (⟨now, .destroy id, .done (.ok ())⟩ :: h) other ↔
      other ≠ id ∧ Stands h other := by
    intro other
    simp [stands_cons, eq_comm]
  have htaken : ∀ key other, HasTaken (⟨now, .destroy id, .done (.ok ())⟩ :: h) key other ↔
      other ≠ id ∧ HasTaken h key other := by
    intro key other
    simp [hasTaken_cons, eq_comm]
  refine ⟨fun other v => ?_, fun key other => ?_, fun key other hk => ?_⟩
  · rw [hstands]
    by_cases heq : other = id
    · simp [LockStore.drop, Table.get?_erase, heq]
    · simp [LockStore.drop, Table.get?_erase, heq, lease?, ha.session_iff]
  · rw [htaken]
    by_cases heq : other = id
    · simp [LockStore.drop, hw.holders_unique.get?_filter, Option.filter_eq_some_iff, heq]
    · simp [LockStore.drop, hw.holders_unique.get?_filter, Option.filter_eq_some_iff, heq,
        ha.holder_iff, Table.contains, Table.get?_erase]
  · obtain ⟨hne, hk⟩ := (htaken key other).mp hk
    exact (hstands other).mpr ⟨hne, ha.stands key other hk⟩

theorem Agrees.take (ha : Agrees h now s) {key : String} {id : SessionId}
    (hid : s.sessions.contains id = true) (hk : s.holders.get? key = none) :
    Agrees (⟨now, .acquire key id, .won (.ok true)⟩ :: h) now
      { s with holders := s.holders.put key id } := by
  have hstands : ∀ other, Stands (⟨now, .acquire key id, .won (.ok true)⟩ :: h) other ↔
      Stands h other := by
    intro other
    simp [stands_cons]
  have htaken : ∀ key' other,
      HasTaken (⟨now, .acquire key id, .won (.ok true)⟩ :: h) key' other ↔
        (key' = key ∧ other = id) ∨ HasTaken h key' other := by
    intro key' other
    simp [hasTaken_cons, eq_comm]
  refine ⟨fun other v => ?_, fun key' other => ?_, fun key' other ht => ?_⟩
  · rw [hstands]
    exact ha.session_iff other v
  · rw [Table.get?_put, htaken]
    by_cases heq : key' = key
    · subst heq
      simp only [if_true, Option.some.injEq, true_and]
      constructor
      · rintro rfl
        exact ⟨.inl rfl, hid⟩
      · rintro ⟨rfl | ht, hother⟩
        · rfl
        · have hholder := (ha.holder_iff key' other).mpr ⟨ht, hother⟩
          rw [hk] at hholder
          cases hholder
    · simp [heq, ha.holder_iff]
  · obtain ⟨v, hv⟩ := Table.contains_iff.mp hid
    rcases (htaken key' other).mp ht with ⟨-, rfl⟩ | ht
    · exact (hstands other).mpr ((ha.session_iff other v).mp hv).1
    · exact (hstands other).mpr (ha.stands key' other ht)

theorem Agrees.retake (ha : Agrees h now s) {key : String} {id : SessionId}
    (hk : s.holders.get? key = some id) :
    Agrees (⟨now, .acquire key id, .won (.ok true)⟩ :: h) now s := by
  obtain ⟨htaken, hid⟩ := (ha.holder_iff key id).mp hk
  have hcons : ∀ key' other,
      HasTaken (⟨now, .acquire key id, .won (.ok true)⟩ :: h) key' other ↔
        HasTaken h key' other := by
    intro key' other
    rw [hasTaken_cons]
    simp only [Request.acquire.injEq, and_true, ne_eq, reduceCtorEq, not_false_eq_true, true_and,
      or_iff_right_iff_imp]
    rintro ⟨rfl, rfl⟩
    exact htaken
  refine ha.idle (by simp) (by simp) (fun _ => rfl) (fun key' other => ?_) fun key' other ht => ?_
  · rw [hcons]
  · exact ha.stands key' other ((hcons key' other).mp ht)

theorem Agrees.release (ha : Agrees h now s) (key : String) (id : SessionId) :
    Agrees (⟨now, .release key id, .done (.ok ())⟩ :: h) now
      (if s.holders.get? key = some id then { s with holders := s.holders.erase key } else s) := by
  have hstands : ∀ other, Stands (⟨now, .release key id, .done (.ok ())⟩ :: h) other ↔
      Stands h other := by
    intro other
    simp [stands_cons]
  have htaken : ∀ key' other,
      HasTaken (⟨now, .release key id, .done (.ok ())⟩ :: h) key' other ↔
        (key' = key → other ≠ id) ∧ HasTaken h key' other := by
    intro key' other
    simp [hasTaken_cons, eq_comm]
  split_ifs with hk
  · refine ⟨fun other v => ?_, fun key' other => ?_, fun key' other ht => ?_⟩
    · rw [hstands]
      exact ha.session_iff other v
    · rw [Table.get?_erase, htaken]
      by_cases heq : key' = key
      · subst heq
        simp only [if_true, reduceCtorEq, true_imp_iff, false_iff]
        rintro ⟨⟨hne, ht⟩, hother⟩
        have hholder := (ha.holder_iff key' other).mpr ⟨ht, hother⟩
        exact hne (Option.some.inj (hholder.symm.trans hk))
      · simp [heq, ha.holder_iff]
    · exact (hstands other).mpr (ha.stands key' other ((htaken key' other).mp ht).2)
  · refine ha.idle (by simp) (by simp) (fun _ => rfl) (fun key' other => ?_) fun key' other ht => ?_
    · rw [htaken]
      constructor
      · rintro ⟨⟨-, ht⟩, hother⟩
        exact ⟨ht, hother⟩
      · rintro ⟨ht, hother⟩
        have hholder := (ha.holder_iff key' other).mpr ⟨ht, hother⟩
        refine ⟨⟨?_, ht⟩, hother⟩
        rintro rfl rfl
        exact hk hholder
    · exact ha.stands key' other ((htaken key' other).mp ht).2

theorem Agrees.look (ha : Agrees h now s) {r : Request} {y : Reply}
    (hc : ∀ id ttl, r ≠ .create id ttl) (hd : ∀ id, r ≠ .destroy id)
    (hl : ∀ id, r = .renew id → y ≠ .done (.ok ()))
    (ht : ∀ key id, r = .acquire key id → y ≠ .won (.ok true))
    (hr : ∀ key id, r ≠ .release key id) : Agrees (⟨now, r, y⟩ :: h) now s := by
  have htaken : ∀ key id, HasTaken (⟨now, r, y⟩ :: h) key id ↔ HasTaken h key id := by
    intro key id
    rw [hasTaken_cons]
    simp only [hr, hd, ne_eq, not_false_eq_true, and_self, true_and, or_iff_right_iff_imp]
    rintro ⟨heq, hy⟩
    exact absurd hy (ht key id heq)
  have hlease : ∀ id, lease? (⟨now, r, y⟩ :: h) id = lease? h id :=
    fun id => lease?_cons_of_ne (hc id) (hl id)
  refine ha.idle hc hd hlease (fun key id => ?_) fun key id hk => ?_
  · rw [htaken]
  · exact ha.stands key id ((htaken key id).mp hk)

theorem Agrees.apply (ha : Agrees h now s) (hw : s.WellFormed) {r : Request}
    (hnew : r.IsNew h) :
    Agrees (⟨now, r, (s.apply now r).1⟩ :: h) now (s.apply now r).2 := by
  cases r with
  | create id ttl => exact ha.create hnew
  | renew id =>
    simp only [LockStore.apply]
    split
    · exact ha.look (by simp) (by simp) (by simp) (by simp) (by simp)
    · next v hv => exact ha.renew hv
  | destroy id => exact ha.destroy hw id
  | acquire key id =>
    simp only [LockStore.apply]
    split_ifs with hid
    · split
      · next hk => exact ha.take hid hk
      · next other hk =>
        by_cases heq : other = id
        · subst heq
          simpa using ha.retake hk
        · exact ha.look (by simp) (by simp) (by simp) (by simp [heq]) (by simp)
    · exact ha.look (by simp) (by simp) (by simp) (by simp) (by simp)
  | release key id => exact ha.release key id
  | holder key => exact ha.look (by simp) (by simp) (by simp) (by simp) (by simp)
  | sessionCount => exact ha.look (by simp) (by simp) (by simp) (by simp) (by simp)

theorem Run.wellFormed {last : Nat} (run : Run h last s) : s.WellFormed := by
  induction run with
  | start => exact wellFormed_empty
  | call run hnow r hr ih => exact ih.serve _ r

theorem Run.endsBy {last : Nat} (run : Run h last s) : h.EndsBy last := by
  induction run with
  | start => exact fun e he => absurd he List.not_mem_nil
  | call run hnow r hr ih => exact ih.cons hnow

theorem Run.created {last : Nat} (run : Run h last s) {id : SessionId} {v : Session}
    (hv : s.sessions.get? id = some v) : ∃ e ∈ h, ∃ ttl, e.request = .create id ttl := by
  induction run generalizing v with
  | start => cases hv
  | @call h last s now run hnow r hr ih =>
    by_cases hc : ∃ ttl, r = .create id ttl
    · exact ⟨_, List.mem_cons_self, hc⟩
    · cases hs : s.sessions.get? id with
      | some w =>
        obtain ⟨e, he, hreq⟩ := ih hs
        exact ⟨e, List.mem_cons_of_mem _ he, hreq⟩
      | none =>
        rw [get?_sessions_serve_eq_none run.wellFormed now hs] at hv
        · cases hv
        · intro hcreated
          cases r with
          | create other ttl => exact hc ⟨ttl, by simpa [Request.created?] using hcreated⟩
          | _ => cases hcreated

theorem Run.isFresh {last : Nat} (run : Run h last s) {r : Request} (hr : r.IsNew h) :
    r.IsFresh s := by
  cases r with
  | create id ttl =>
    show s.sessions.get? id = none
    cases hs : s.sessions.get? id with
    | none => rfl
    | some v =>
      obtain ⟨e, he, ttl', hreq⟩ := run.created hs
      exact absurd hreq (hr id ttl ttl' rfl e he)
  | _ => trivial

/-- At any time after its last call, the reaped store is what the history says. -/
theorem Run.agrees {last : Nat} (run : Run h last s) {now : Nat} (hn : last ≤ now) :
    Agrees h now (s.reap now) := by
  induction run generalizing now with
  | start =>
    have h0 : Agrees [] 0 empty := agrees_start
    exact h0.reap wellFormed_empty hn
  | @call h last s t run ht r hr ih =>
    have hw := run.wellFormed
    obtain ⟨hreply, hafter⟩ := serve_reap hw t (run.isFresh hr)
    have hcall := (ih ht).apply (hw.reap t) hr
    rw [← hreply, ← hafter] at hcall
    have hlater := hcall.reap ((hw.serve t r).reap t) hn
    rwa [reap_reap (hw.serve t r) hn] at hlater

/-- A session that was overdue once is so ever after: its renewal is refused. -/
theorem Run.overdue_mono {last : Nat} (run : Run h last s) {id : SessionId} {a b : Nat}
    (ho : Overdue h id a) (hab : a ≤ b) : Overdue h id b := by
  induction run generalizing a b with
  | start =>
    obtain ⟨v, hv, -⟩ := ho
    cases hv
  | @call h last s now run hnow r hr ih =>
    have hcall := Run.call run hnow r hr
    rcases Nat.lt_or_ge b now with hb | hb
    · unfold Overdue at ho ⊢
      rw [History.asOf_cons_of_lt hb]
      rw [History.asOf_cons_of_lt (lt_of_le_of_lt hab hb)] at ho
      exact ih ho hab
    · have hasOf : ∀ {m}, now ≤ m → History.asOf (_ :: h) m = _ :: h :=
        fun hm => (hcall.endsBy.mono hm).asOf_eq
      rcases Nat.lt_or_ge a now with ha | ha
      · unfold Overdue at ho
        rw [History.asOf_cons_of_lt ha] at ho
        obtain ⟨v, hv, hlt⟩ := ih ho ha.le
        rw [(run.endsBy.mono hnow).asOf_eq] at hv
        refine ⟨v, ?_, hlt.trans_le hb⟩
        rw [hasOf hb, lease?_cons_of_ne ?_ ?_, hv]
        · rintro ttl rfl
          obtain ⟨e, he, ttl', hreq⟩ := exists_create_of_lease hv
          exact hr id ttl ttl' rfl e he hreq
        -- the renewal of a session whose lease ran out is refused
        rintro rfl hrenewed
        obtain ⟨w, hw⟩ := exists_session_of_renewed hrenewed
        obtain ⟨-, hlease, hle⟩ := ((run.agrees hnow).session_iff id w).mp hw
        cases hlease.symm.trans hv
        omega
      · obtain ⟨v, hv, hlt⟩ := ho
        rw [hasOf ha] at hv
        exact ⟨v, by rw [hasOf hb]; exact hv, hlt.trans_le hab⟩

end Rollcall.LockStore
