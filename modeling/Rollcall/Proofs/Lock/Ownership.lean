import Rollcall.Proofs.Lock.Eager
import Rollcall.Proofs.Lock.Run

/-!
# Who holds a key

A key changes hands only for a reason that the history shows. A session that has taken a key loses
it by releasing it, by being destroyed, or by not being renewed within its time to live, and as long
as none of this has happened every other session is turned away.
-/

namespace Rollcall.LockStore

/-- Since the session was created it has not been destroyed, nor been overdue at any moment. -/
def Live (h : History) (now : Nat) (id : SessionId) : Prop :=
  ∃ later e earlier, h = later ++ e :: earlier ∧ (∃ ttl, e.request = .create id ttl) ∧
    (∀ x ∈ later, x.request ≠ .destroy id) ∧
    ∀ moment, e.time ≤ moment → moment ≤ now → ¬ Overdue h id moment

/-- Since the session took the key it has not released it, nor been destroyed, nor been overdue at
any moment. -/
def Keeps (h : History) (now : Nat) (key : String) (id : SessionId) : Prop :=
  ∃ later e earlier, h = later ++ e :: earlier ∧
    (e.request = .acquire key id ∧ e.reply = .won (.ok true)) ∧
    (∀ x ∈ later, x.request ≠ .release key id ∧ x.request ≠ .destroy id) ∧
    ∀ moment, e.time ≤ moment → moment ≤ now → ¬ Overdue h id moment

variable {h : History} {s : LockStore} {last now : Nat}

theorem Run.not_overdue_iff (run : Run h last s) (hn : last ≤ now) {id : SessionId} {v : Session}
    (hv : lease? h id = some v) : ¬ Overdue h id now ↔ now ≤ v.expires := by
  unfold Overdue
  rw [(run.endsBy.mono hn).asOf_eq, hv]
  simp

/-- A session that is not overdue now has not been so at any moment before. -/
theorem Run.forall_not_overdue_iff (run : Run h last s) (hn : last ≤ now) {id : SessionId}
    {e : Answered} (he : e ∈ h) :
    (∀ moment, e.time ≤ moment → moment ≤ now → ¬ Overdue h id moment) ↔ ¬ Overdue h id now := by
  constructor
  · intro hall
    exact hall now ((run.endsBy e he).trans hn) le_rfl
  · intro hnow moment _ hm ho
    exact hnow (run.overdue_mono ho hm)

theorem Run.live_iff (run : Run h last s) (hn : last ≤ now) (id : SessionId) :
    Live h now id ↔ (s.reap now).sessions.contains id = true := by
  have ha := run.agrees hn
  constructor
  · rintro ⟨later, e, earlier, heq, hcreate, hlater, hnever⟩
    have hs : Stands h id := ⟨later, e, earlier, heq, hcreate, hlater⟩
    obtain ⟨v, hv⟩ := exists_lease_of_stands hs
    rw [run.forall_not_overdue_iff hn (by simp [heq]), run.not_overdue_iff hn hv] at hnever
    exact Table.contains_iff.mpr ⟨v, (ha.session_iff id v).mpr ⟨hs, hv, hnever⟩⟩
  · intro hid
    obtain ⟨v, hget⟩ := Table.contains_iff.mp hid
    obtain ⟨⟨later, e, earlier, heq, hcreate, hlater⟩, hv, hle⟩ := (ha.session_iff id v).mp hget
    refine ⟨later, e, earlier, heq, hcreate, hlater, ?_⟩
    rw [run.forall_not_overdue_iff hn (by simp [heq]), run.not_overdue_iff hn hv]
    exact hle

theorem Run.keeps_iff (run : Run h last s) (hn : last ≤ now) (key : String) (id : SessionId) :
    Keeps h now key id ↔ (s.reap now).holders.get? key = some id := by
  have ha := run.agrees hn
  constructor
  · rintro ⟨later, e, earlier, heq, htake, hlater, hnever⟩
    have ht : HasTaken h key id := ⟨later, e, earlier, heq, htake, hlater⟩
    have hs := ha.stands key id ht
    obtain ⟨v, hv⟩ := exists_lease_of_stands hs
    rw [run.forall_not_overdue_iff hn (by simp [heq]), run.not_overdue_iff hn hv] at hnever
    have hid := Table.contains_iff.mpr ⟨v, (ha.session_iff id v).mpr ⟨hs, hv, hnever⟩⟩
    exact (ha.holder_iff key id).mpr ⟨ht, hid⟩
  · intro hk
    obtain ⟨⟨later, e, earlier, heq, htake, hlater⟩, hid⟩ := (ha.holder_iff key id).mp hk
    obtain ⟨v, hget⟩ := Table.contains_iff.mp hid
    obtain ⟨-, hv, hle⟩ := (ha.session_iff id v).mp hget
    refine ⟨later, e, earlier, heq, htake, hlater, ?_⟩
    rw [run.forall_not_overdue_iff hn (by simp [heq]), run.not_overdue_iff hn hv]
    exact hle

theorem serve_acquire (key : String) {id : SessionId}
    (hid : (s.reap now).sessions.contains id = true) :
    (s.serve now (.acquire key id)).1 =
      .won (.ok (decide (∀ other, (s.reap now).holders.get? key = some other → other = id))) := by
  simp only [serve, LockStore.acquire, hid, if_true]
  cases hk : (s.reap now).holders.get? key with
  | none => simp
  | some other =>
    by_cases heq : other = id
    · simp [heq]
    · simp [heq]

theorem replies_acquire_of_held {key : String} {first : SessionId} (hs : s.reap now = s)
    (hk : s.holders.get? key = some first) {ids : List SessionId}
    (hids : ∀ id ∈ ids, s.sessions.contains id = true ∧ id ≠ first) :
    s.replies (ids.map fun id => (now, .acquire key id)) =
      List.replicate ids.length (.won (.ok false)) := by
  induction ids with
  | nil => rfl
  | cons id ids ih =>
    rw [List.forall_mem_cons] at hids
    obtain ⟨⟨hid, hne⟩, hids⟩ := hids
    have hserve : s.serve now (.acquire key id) = (.won (.ok false), s) := by
      simp only [serve, LockStore.acquire, hs, hid, if_true, hk, Ne.symm hne, if_false]
    simp only [List.map_cons, replies, hserve, List.length_cons, List.replicate_succ]
    rw [ih hids]

/-- Of those who ask for a free key at one instant the first gets it. -/
theorem replies_acquire_of_free (hw : s.WellFormed) {key : String} {first : SessionId}
    {ids : List SessionId} (hk : (s.reap now).holders.get? key = none)
    (hfirst : (s.reap now).sessions.contains first = true)
    (hids : ∀ id ∈ ids, (s.reap now).sessions.contains id = true ∧ id ≠ first) :
    s.replies ((first :: ids).map fun id => (now, .acquire key id)) =
      .won (.ok true) :: List.replicate ids.length (.won (.ok false)) := by
  have hserve : s.serve now (.acquire key first) =
      (.won (.ok true), { s.reap now with holders := (s.reap now).holders.put key first }) := by
    simp only [serve, LockStore.acquire, hfirst, if_true, hk]
  have hcurrent := reap_eq_self ((hw.reap now).bind key hfirst) (hw.current_reap now)
  simp only [List.map_cons, replies, hserve]
  rw [replies_acquire_of_held hcurrent (Table.get?_put _ key key first ▸ if_pos rfl) hids]

theorem serve_release_of_not_holder {key : String} {id : SessionId}
    (hk : (s.reap now).holders.get? key ≠ some id) :
    (s.serve now (.release key id)).2 = s.reap now :=
  if_neg hk

/-- A live session is refused a key exactly if another one has taken it and since then has neither
released it nor been destroyed nor been overdue; otherwise it gets the key. So of any live sessions
that ask for a free key at one instant the first gets it and no other does. Whoever does not hold a
key, and releases it, changes no holder at any later time. -/
theorem Run.ownership (run : Run h last s) (hn : last ≤ now) (key : String) :
    (∀ id, Live h now id →
      ((s.serve now (.acquire key id)).1 = .won (.ok false) ↔
        ∃ other, other ≠ id ∧ Keeps h now key other) ∧
      ((s.serve now (.acquire key id)).1 = .won (.ok true) ↔
        ¬ ∃ other, other ≠ id ∧ Keeps h now key other)) ∧
    (∀ first ids, (first :: ids).Nodup → (∀ id ∈ first :: ids, Live h now id) →
      (¬ ∃ id, Keeps h now key id) →
      s.replies ((first :: ids).map fun id => (now, .acquire key id)) =
        .won (.ok true) :: List.replicate ids.length (.won (.ok false))) ∧
    ∀ id, ¬ Keeps h now key id → ∀ later, now ≤ later → ∀ key',
      ((s.serve now (.release key id)).2.serve later (.holder key')).1 =
        (s.serve later (.holder key')).1 := by
  refine ⟨fun id hl => ?_, fun first ids hnodup hl hfree => ?_, fun id hnot later hlater key' => ?_⟩
  · have hreply := serve_acquire key ((run.live_iff hn id).mp hl)
    have hother : (∃ other, other ≠ id ∧ Keeps h now key other) ↔
        ¬ ∀ other, (s.reap now).holders.get? key = some other → other = id := by
      simp only [run.keeps_iff hn]
      push Not
      exact exists_congr fun _ => And.comm
    rw [hreply, hother]
    constructor
    · simp
    · simp
  · have hk : (s.reap now).holders.get? key = none := by
      refine Option.eq_none_iff_forall_ne_some.mpr fun id hk => ?_
      exact hfree ⟨id, (run.keeps_iff hn key id).mpr hk⟩
    rw [List.nodup_cons] at hnodup
    apply replies_acquire_of_free run.wellFormed hk
    · exact (run.live_iff hn first).mp (hl first List.mem_cons_self)
    · intro id hid
      refine ⟨(run.live_iff hn id).mp (hl id (List.mem_cons_of_mem _ hid)), ?_⟩
      rintro rfl
      exact hnodup.1 hid
  · have hafter := serve_release_of_not_holder fun hk => hnot ((run.keeps_iff hn key id).mpr hk)
    rw [hafter]
    simp only [serve, LockStore.holder]
    rw [reap_reap run.wellFormed hlater]

theorem ownership_passes_when_overdue :
    ∃ h s, Run h 5 s ∧ Keeps h 10 "k" ⟨"a"⟩ ∧
      (s.serve 10 (.acquire "k" ⟨"b"⟩)).1 = .won (.ok false) ∧
      ((s.serve 10 (.release "k" ⟨"b"⟩)).2.serve 10 (.holder "k")).1 = .heldBy (some ⟨"a"⟩) ∧
      (s.serve 11 (.acquire "k" ⟨"b"⟩)).1 = .won (.ok true) ∧
      s.replies [(11, .acquire "k" ⟨"c"⟩), (11, .acquire "k" ⟨"b"⟩)] =
        [.won (.ok true), .won (.ok false)] := by
  have r0 := Run.start
  have r1 := r0.call (Nat.zero_le 0) (.create ⟨"a"⟩ 10) (by simp [Request.IsNew])
  have r2 := r1.call (Nat.zero_le 0) (.create ⟨"b"⟩ 10) (by rintro _ _ _ ⟨⟩; simp)
  have r3 := r2.call (Nat.zero_le 0) (.create ⟨"c"⟩ 10) (by rintro _ _ _ ⟨⟩; simp)
  have r4 := r3.call (Nat.zero_le 1) (.acquire "k" ⟨"a"⟩) (by simp [Request.IsNew])
  have r5 := r4.call (show 1 ≤ 5 by decide) (.renew ⟨"b"⟩) (by simp [Request.IsNew])
  have run := r5.call (Nat.le_refl 5) (.renew ⟨"c"⟩) (by simp [Request.IsNew])
  have hkeeps := (run.keeps_iff (show 5 ≤ 10 by decide) "k" ⟨"a"⟩).mpr rfl
  have hfree := fun id => (run.keeps_iff (show 5 ≤ 11 by decide) "k" id).not.mpr nofun
  have hlive := fun now (hn : 5 ≤ now) id => (run.live_iff hn id).mpr
  obtain ⟨hrefused, -, hrelease⟩ := run.ownership (show 5 ≤ 10 by decide) "k"
  obtain ⟨hwon, hrace, -⟩ := run.ownership (show 5 ≤ 11 by decide) "k"
  refine ⟨_, _, run, hkeeps, ?_, ?_, ?_, ?_⟩
  · exact ((hrefused ⟨"b"⟩ (hlive 10 (by decide) _ rfl)).1).mpr ⟨⟨"a"⟩, by decide, hkeeps⟩
  · rw [hrelease ⟨"b"⟩ ((run.keeps_iff (by decide) "k" ⟨"b"⟩).not.mpr (by decide)) 10 le_rfl]
    rfl
  · exact ((hwon ⟨"b"⟩ (hlive 11 (by decide) _ rfl)).2).mpr fun ⟨id, _, hk⟩ => hfree id hk
  · refine hrace ⟨"c"⟩ [⟨"b"⟩] (by decide) ?_ fun ⟨id, hk⟩ => hfree id hk
    rw [List.forall_mem_cons, List.forall_mem_singleton]
    exact ⟨hlive 11 (by decide) _ rfl, hlive 11 (by decide) _ rfl⟩

end Rollcall.LockStore
