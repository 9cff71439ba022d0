import Mathlib
import Rollcall.Cluster
import Rollcall.Fault
import Rollcall.Proofs.Lock.Frame

/-!
# Calls on a cluster that may fail

A cluster is sound when its lock store is well formed and its sessions have numbers that were given
out. Faults may be waiting for calls of every operation except renewal. Whatever call is made then,
failing or not, a session that is alive stays alive and keeps its keys, unless the call is one that
destroys the session or releases its keys.
-/

namespace Rollcall

namespace Cluster

theorem sessionId_injective {m n : Nat} (h : sessionId m = sessionId n) : m = n := by
  have htext : "sess-" ++ toString m = "sess-" ++ toString n := congrArg SessionId.text h
  have hdigits := congrArg String.toList htext
  rw [String.toList_append, String.toList_append, List.append_cancel_left_eq] at hdigits
  exact Nat.repr_injective (String.toList_inj.mp hdigits)

structure Sound (b : Cluster) : Prop where
  wellFormed : b.locks.WellFormed
  numbered : ∀ id v, b.locks.sessions.get? id = some v → ∃ n ≤ b.created, id = sessionId n

/-- The request that a call makes to the lock store, if it makes one. -/
def request? (b : Cluster) : Call → Option LockStore.Request
  | .createSession ttl => some (.create (sessionId (b.created + 1)) ttl)
  | .renewSession session => some (.renew session)
  | .destroySession session => some (.destroy session)
  | .acquire key session => some (.acquire key session)
  | .release key session => some (.release key session)
  | _ => none

variable {b : Cluster} {now : Nat}

theorem locks_perform (b : Cluster) (now : Nat) (c : Call) :
    (b.request? c = none ∧ (b.perform now c).2.locks = b.locks) ∨
      ∃ r, b.request? c = some r ∧ (b.perform now c).2.locks = (b.locks.serve now r).2 := by
  cases c with
  | createSession ttl => exact .inr ⟨_, rfl, rfl⟩
  | renewSession session => exact .inr ⟨_, rfl, rfl⟩
  | destroySession session => exact .inr ⟨_, rfl, rfl⟩
  | acquire key session => exact .inr ⟨_, rfl, rfl⟩
  | release key session => exact .inr ⟨_, rfl, rfl⟩
  | _ => exact .inl ⟨rfl, rfl⟩

theorem created_perform (b : Cluster) (now : Nat) (c : Call) :
    (b.perform now c).2.created =
      match c with
      | .createSession _ => b.created + 1
      | _ => b.created := by
  cases c <;> rfl

theorem Sound.next_unknown (h : b.Sound) :
    b.locks.sessions.get? (sessionId (b.created + 1)) = none := by
  cases hv : b.locks.sessions.get? (sessionId (b.created + 1)) with
  | none => rfl
  | some v =>
    obtain ⟨n, hn, heq⟩ := h.numbered _ v hv
    have := sessionId_injective heq
    omega

theorem Sound.isFresh (h : b.Sound) {c : Call} {r : LockStore.Request}
    (hr : b.request? c = some r) : r.IsFresh b.locks := by
  cases c with
  | createSession ttl =>
    cases hr
    exact h.next_unknown
  | _ => cases hr <;> trivial

theorem Sound.perform (h : b.Sound) (now : Nat) (c : Call) : (b.perform now c).2.Sound := by
  have hcreated : b.created ≤ (b.perform now c).2.created := by
    rw [created_perform]
    split <;> omega
  rcases locks_perform b now c with ⟨-, hlocks⟩ | ⟨r, hr, hlocks⟩
  · refine ⟨hlocks ▸ h.wellFormed, fun id v hv => ?_⟩
    obtain ⟨n, hn, heq⟩ := h.numbered id v (hlocks ▸ hv)
    exact ⟨n, hn.trans hcreated, heq⟩
  · refine ⟨hlocks ▸ h.wellFormed.serve now r, fun id v hv => ?_⟩
    rw [hlocks] at hv
    cases hbefore : b.locks.sessions.get? id with
    | some w =>
      obtain ⟨n, hn, heq⟩ := h.numbered id w hbefore
      exact ⟨n, hn.trans hcreated, heq⟩
    | none =>
      by_cases hid : r.created? = some id
      · -- the session that the call creates gets the next number
        cases c with
        | createSession ttl =>
          cases hr
          cases hid
          exact ⟨b.created + 1, le_rfl, rfl⟩
        | _ => cases hr <;> cases hid
      · rw [LockStore.get?_sessions_serve_eq_none h.wellFormed now hbefore hid] at hv
        cases hv

end Cluster

/-- The call destroys no session but one of `D`, and releases no key of a session but one of `R`. -/
def Call.Within (D R : Set SessionId) : Call → Prop
  | .destroySession session => session ∈ D
  | .release _ session => session ∈ R
  | _ => True

namespace Fault

theorem mem_next {op : Call.Kind} {l : List Fault} {f : Fault} (h : f ∈ (next op l).2) :
    ∃ g ∈ l, f.on = g.on ∧ f.error = g.error := by
  induction l with
  | nil => cases h
  | cons g l ih =>
    simp only [next] at h
    split_ifs at h
    · obtain ⟨x, hx, heq⟩ := ih h
      exact ⟨x, List.mem_cons_of_mem _ hx, heq⟩
    · rcases List.mem_cons.mp h with rfl | h
      · exact ⟨g, List.mem_cons_self, rfl, rfl⟩
      · exact ⟨f, List.mem_cons_of_mem _ h, rfl, rfl⟩
    · rcases List.mem_cons.mp h with rfl | h
      · exact ⟨f, List.mem_cons_self, rfl, rfl⟩
      · obtain ⟨x, hx, heq⟩ := ih h
        exact ⟨x, List.mem_cons_of_mem _ hx, heq⟩

theorem exists_of_next {op : Call.Kind} {l : List Fault} {e : Error}
    (h : (next op l).1 = some e) : ∃ f ∈ l, f.on = op ∧ f.error = e := by
  induction l with
  | nil => cases h
  | cons f l ih =>
    simp only [next] at h
    split_ifs at h with _ hop
    · obtain ⟨x, hx, heq⟩ := ih h
      exact ⟨x, List.mem_cons_of_mem _ hx, heq⟩
    · cases h
      exact ⟨f, List.mem_cons_self, hop, rfl⟩
    · obtain ⟨x, hx, heq⟩ := ih h
      exact ⟨x, List.mem_cons_of_mem _ hx, heq⟩

theorem next_next {op op' : Call.Kind} {l : List Fault} (h : (next op l).1 = none) :
    (next op' (next op l).2).1 = (next op' l).1 := by
  induction l with
  | nil => rfl
  | cons f l ih =>
    simp only [next] at h ⊢
    split_ifs at h with htimes hop
    · rw [if_pos htimes, if_pos htimes]
      exact ih h
    · rw [if_neg htimes, if_neg hop, if_neg htimes]
      simp only [next, if_neg htimes]
      split_ifs
      · rfl
      · exact ih h

theorem next_eq_none {op : Call.Kind} {l : List Fault} (h : ∀ f ∈ l, f.on ≠ op) :
    (next op l).1 = none := by
  induction l with
  | nil => rfl
  | cons f l ih =>
    rw [List.forall_mem_cons] at h
    simp only [next, h.1, if_false]
    split_ifs <;> exact ih h.2

end Fault

namespace Faulty

variable {b : Faulty Cluster} {now : Nat}

/-- The cluster behind is sound, and no fault is waiting for a renewal. -/
structure Sound (b : Faulty Cluster) : Prop where
  behind : b.behind.Sound
  renews : ∀ f ∈ b.pending, f.on ≠ .renewSession

/-- The session has this time to live and will not lapse until the instant has passed. -/
def Lasts (b : Faulty Cluster) (id : SessionId) (ttl instant : Nat) : Prop :=
  ∃ v, b.behind.locks.sessions.get? id = some v ∧ v.ttl = ttl ∧ instant ≤ v.expires

def Holds (b : Faulty Cluster) (key : String) (id : SessionId) : Prop :=
  b.behind.locks.holders.get? key = some id

/-- What calls at an instant have left as it was, except for the sessions of `D` and the keys of
the sessions of `R`. -/
structure Keeps (now : Nat) (D R : Set SessionId) (b b' : Faulty Cluster) : Prop where
  sound : b'.Sound
  lasts : ∀ id ttl instant, id ∉ D → now ≤ instant → instant ≤ now + ttl →
    b.Lasts id ttl instant → b'.Lasts id ttl instant
  holds : ∀ key id ttl, id ∉ D → id ∉ R → b.Lasts id ttl now → b.Holds key id → b'.Holds key id

theorem Lasts.mono {id : SessionId} {ttl i j : Nat} (h : b.Lasts id ttl j) (hij : i ≤ j) :
    b.Lasts id ttl i := by
  obtain ⟨v, hv, httl, hle⟩ := h
  exact ⟨v, hv, httl, hij.trans hle⟩

theorem Keeps.refl (h : b.Sound) (now : Nat) (D R : Set SessionId) : Keeps now D R b b :=
  ⟨h, fun _ _ _ _ _ _ hl => hl, fun _ _ _ _ _ _ hk => hk⟩

theorem Keeps.trans {D R : Set SessionId} {b₁ b₂ b₃ : Faulty Cluster} (h : Keeps now D R b₁ b₂)
    (h' : Keeps now D R b₂ b₃) : Keeps now D R b₁ b₃ where
  sound := h'.sound
  lasts id ttl instant hD hnow hle hl :=
    h'.lasts id ttl instant hD hnow hle (h.lasts id ttl instant hD hnow hle hl)
  holds key id ttl hD hR hl hk :=
    h'.holds key id ttl hD hR (h.lasts id ttl now hD le_rfl (Nat.le_add_right now ttl) hl)
      (h.holds key id ttl hD hR hl hk)

theorem Keeps.mono {D R D' R' : Set SessionId} {b' : Faulty Cluster} (h : Keeps now D R b b')
    (hD : D ⊆ D') (hR : R ⊆ R') : Keeps now D' R' b b' where
  sound := h.sound
  lasts id ttl instant hid := h.lasts id ttl instant fun hmem => hid (hD hmem)
  holds key id ttl hid hid' := h.holds key id ttl (fun hmem => hid (hD hmem)) fun hmem =>
    hid' (hR hmem)

/-- A call fails and leaves the cluster alone, or reaches it. -/
theorem perform_cases (b : Faulty Cluster) (now : Nat) (c : Call) :
    (∃ e, (Fault.next c.kind b.pending).1 = some e ∧
      Backend.perform b now c = (.error e, ⟨b.behind, (Fault.next c.kind b.pending).2⟩)) ∨
    Backend.perform b now c = ((b.behind.perform now c).1,
      ⟨(b.behind.perform now c).2, (Fault.next c.kind b.pending).2⟩) := by
  show (∃ e, _ ∧ Faulty.perform b now c = _) ∨ Faulty.perform b now c = _
  unfold Faulty.perform
  rcases hn : Fault.next c.kind b.pending with ⟨_ | e, pending⟩
  · exact .inr rfl
  · exact .inl ⟨e, rfl, rfl⟩

theorem Sound.perform (h : b.Sound) (now : Nat) (c : Call) :
    (Backend.perform b now c).2.Sound := by
  have hrenews : ∀ f ∈ (Fault.next c.kind b.pending).2, f.on ≠ .renewSession := by
    intro f hf
    obtain ⟨g, hg, heq, -⟩ := Fault.mem_next hf
    exact heq ▸ h.renews g hg
  rcases perform_cases b now c with ⟨e, -, hp⟩ | hp
  · rw [hp]
    exact ⟨h.behind, hrenews⟩
  · rw [hp]
    exact ⟨h.behind.perform now c, hrenews⟩

theorem Sound.keeps_perform (h : b.Sound) (now : Nat) {c : Call} {D R : Set SessionId}
    (hc : c.Within D R) : Keeps now D R b (Backend.perform b now c).2 := by
  refine ⟨h.perform now c, fun id ttl instant hD hnow hle hl => ?_,
    fun key id ttl hD hR hl hk => ?_⟩
  · obtain ⟨v, hv, httl, hexpires⟩ := hl
    rcases perform_cases b now c with ⟨e, -, hp⟩ | hp
    · rw [hp]
      exact ⟨v, hv, httl, hexpires⟩
    · rw [hp]
      rcases Cluster.locks_perform b.behind now c with ⟨-, hlocks⟩ | ⟨r, hr, hlocks⟩
      · exact ⟨v, hlocks ▸ hv, httl, hexpires⟩
      · have hd : r ≠ .destroy id := by
          rintro rfl
          cases c <;> cases hr
          exact hD hc
        obtain ⟨w, hw, hwttl, hwexpires⟩ := LockStore.exists_session_serve h.behind.wellFormed
          (h.behind.isFresh hr) hv (hnow.trans hexpires) hd
        refine ⟨w, hlocks ▸ hw, hwttl.trans httl, ?_⟩
        omega
  · obtain ⟨v, hv, -, hexpires⟩ := hl
    rcases perform_cases b now c with ⟨e, -, hp⟩ | hp
    · rw [hp]
      exact hk
    · rw [hp]
      rcases Cluster.locks_perform b.behind now c with ⟨-, hlocks⟩ | ⟨r, hr, hlocks⟩
      · show (b.behind.perform now c).2.locks.holders.get? key = some id
        rw [hlocks]
        exact hk
      · have hd : r ≠ .destroy id := by
          rintro rfl
          cases c <;> cases hr
          exact hD hc
        have hrelease : r ≠ .release key id := by
          rintro rfl
          cases c <;> cases hr
          exact hR hc
        show (b.behind.perform now c).2.locks.holders.get? key = some id
        rw [hlocks]
        exact LockStore.get?_holders_serve h.behind.wellFormed hv hexpires hk hd hrelease

theorem Sound.perform_renew (h : b.Sound) {id : SessionId} {ttl : Nat} (hl : b.Lasts id ttl now) :
    (Backend.perform b now (.renewSession id)).1 = .ok () ∧
      (Backend.perform b now (.renewSession id)).2.Lasts id ttl (now + ttl) := by
  obtain ⟨v, hv, rfl, hle⟩ := hl
  obtain ⟨hok, hget⟩ := LockStore.renew_of_alive h.behind.wellFormed hv hle
  rcases perform_cases b now (.renewSession id) with ⟨e, he, -⟩ | hp
  · cases he.symm.trans (Fault.next_eq_none h.renews)
  · rw [hp]
    exact ⟨hok, _, hget, rfl, le_rfl⟩

theorem Sound.perform_create (h : b.Sound) {ttl : Nat} {id : SessionId}
    (hok : (Backend.perform b now (.createSession ttl)).1 = .ok id) :
    b.behind.locks.sessions.get? id = none ∧
      (Backend.perform b now (.createSession ttl)).2.Lasts id ttl (now + ttl) := by
  rcases perform_cases b now (.createSession ttl) with ⟨e, -, hp⟩ | hp
  · rw [hp] at hok
    cases hok
  · rw [hp] at hok ⊢
    cases hok
    refine ⟨h.behind.next_unknown, ⟨ttl, now + ttl⟩, ?_, rfl, le_rfl⟩
    exact (Table.get?_put _ _ _ _).trans (if_pos rfl)

theorem holds_perform_acquire {key : String} {id : SessionId}
    (hwon : (Backend.perform b now (.acquire key id)).1 = .ok true) :
    (Backend.perform b now (.acquire key id)).2.Holds key id := by
  rcases perform_cases b now (.acquire key id) with ⟨e, -, hp⟩ | hp
  · rw [hp] at hwon
    cases hwon
  · rw [hp] at hwon ⊢
    exact LockStore.get?_holders_acquire hwon

/-- Nobody takes a key from another session that is alive. -/
theorem Sound.perform_acquire_ne (h : b.Sound) {key : String} {id other : SessionId} {ttl : Nat}
    (hl : b.Lasts id ttl now) (hk : b.Holds key id) (hne : other ≠ id) :
    (Backend.perform b now (.acquire key other)).1 ≠ .ok true := by
  obtain ⟨v, hv, -, hle⟩ := hl
  rcases perform_cases b now (.acquire key other) with ⟨e, -, hp⟩ | hp
  · rw [hp]
    exact fun heq => by cases heq
  · rw [hp]
    exact LockStore.acquire_ne_won h.behind.wellFormed hv hle hk hne

end Faulty

end Rollcall
