import Rollcall.Http.Message
import Rollcall.Proofs.Plan
import Rollcall.Url.Query

/-!
# Single exchanges

A request is sent once if it can be sent at all, and what comes of it is decided by what becomes of
that one request.
-/

namespace Rollcall

namespace Plan

variable {I : Interface} {α β : Type}

/-- The plan asks one question and ends with the answer to it. -/
def AsksOnce (p : Plan I α) (op : I.Op) : Prop :=
  ∃ f : I.Answer op → α, p = .ask op fun r => .done (f r)

theorem AsksOnce.bind {p : Plan I α} {op : I.Op} (h : p.AsksOnce op) (g : α → β) :
    (p.bind fun a => .done (g a)).AsksOnce op := by
  obtain ⟨f, rfl⟩ := h
  exact ⟨fun r => g (f r), rfl⟩

/-- The plan asks one question, and the function gives its end for each answer. -/
def Relays (p : Plan I α) (op : I.Op) (result : I.Answer op → α) : Prop :=
  p = .ask op fun r => .done (result r)

theorem Relays.bind {p : Plan I α} {op : I.Op} {result : I.Answer op → α} (h : p.Relays op result)
    (g : α → β) : (p.bind fun a => .done (g a)).Relays op fun r => g (result r) := by
  unfold Relays at h
  rw [h]
  rfl

theorem AsksOnce.unique {p : Plan I α} {op op' : I.Op} (h : p.AsksOnce op)
    (h' : p.AsksOnce op') : op = op' := by
  obtain ⟨f, rfl⟩ := h
  obtain ⟨f', heq⟩ := h'
  injection heq

/-- The plan asks nothing but questions that satisfy `P`, however it ends. -/
structure AsksOnly (P : I.Op → Prop) (p : Plan I α) : Prop where
  meets : p.Meets P fun _ => True

variable {P P' : I.Op → Prop} {p : Plan I α}

theorem AsksOnly.done (P : I.Op → Prop) (a : α) : (Plan.done a : Plan I α).AsksOnly P := ⟨trivial⟩

theorem AsksOnly.map_done (h : p.AsksOnly P) (f : α → β) :
    (p.bind fun a => .done (f a)).AsksOnly P :=
  ⟨h.meets.bind fun _ _ => trivial⟩

theorem AsksOnly.mono (h : p.AsksOnly P) (hP : ∀ op, P op → P' op) : p.AsksOnly P' :=
  ⟨h.meets.mono hP fun _ _ => trivial⟩

end Plan

namespace Http

def Request.onWire (r : Request) : Request := { r with url := r.url.withoutUserinfo }

theorem send_eq {r : Request} (h : canSend r.url) :
    send r = .ask r.onWire fun (d : Delivery) => .done (d.outcome r.onWire.url) := by
  unfold send
  rw [if_pos h]
  rfl

theorem kind_of_canSend {u : Url} (h : canSend u) : u.kind = .web := by
  unfold canSend at h
  simp only [Bool.and_eq_true, Bool.or_eq_true, decide_eq_true_eq] at h
  unfold Url.kind
  rcases h.1 with hs | hs
  · rw [hs]; decide
  · rw [hs]; decide

namespace Status

theorem errorKind_eq_notFound_iff {s : Status} : s.errorKind = .notFound ↔ s.code = 404 := by
  unfold errorKind
  split_ifs <;> simp_all

theorem isSuccess_ne_404 {s : Status} (h : s.isSuccess = true) : s.code ≠ 404 := by
  unfold isSuccess at h
  simp only [Bool.and_eq_true, decide_eq_true_eq] at h
  omega

end Status

end Http

end Rollcall
