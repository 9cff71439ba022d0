import Mathlib.Tactic

/-!
# Histories

A history lists the calls that were made on something, the latest first, each with its time and its
reply. What holds at present is often said of it in one form: something has happened, and nothing
that came later has undone it.
-/

namespace Rollcall

structure Answered (Q R : Type) where
  time : Nat
  request : Q
  reply : R

abbrev History (Q R : Type) := List (Answered Q R)

namespace History

variable {Q R : Type} {p q : Answered Q R → Prop} {e : Answered Q R} {h : History Q R}

/-- Something that satisfies `q` has happened, and all that came later satisfies `p`. -/
def Since (p q : Answered Q R → Prop) (h : History Q R) : Prop :=
  ∃ later e earlier, h = later ++ e :: earlier ∧ q e ∧ ∀ x ∈ later, p x

theorem not_since_nil : ¬ Since p q [] := by
  rintro ⟨later, e, earlier, heq, -, -⟩
  simp at heq

theorem since_cons : Since p q (e :: h) ↔ q e ∨ p e ∧ Since p q h := by
  constructor
  · rintro ⟨later, x, earlier, heq, hx, hl⟩
    cases later with
    | nil =>
      cases heq
      exact .inl hx
    | cons y later =>
      cases heq
      rw [List.forall_mem_cons] at hl
      exact .inr ⟨hl.1, later, x, earlier, rfl, hx, hl.2⟩
  · rintro (he | ⟨he, later, x, earlier, rfl, hx, hl⟩)
    · exact ⟨[], e, h, rfl, he, by simp⟩
    · exact ⟨e :: later, x, earlier, rfl, hx, List.forall_mem_cons.mpr ⟨he, hl⟩⟩

theorem Since.exists_mem (hs : Since p q h) : ∃ e ∈ h, q e := by
  obtain ⟨later, e, earlier, rfl, he, -⟩ := hs
  exact ⟨e, by simp, he⟩

/-- The history as it was at a moment. -/
def asOf (h : History Q R) (moment : Nat) : History Q R := h.filter (·.time ≤ moment)

def EndsBy (h : History Q R) (moment : Nat) : Prop := ∀ e ∈ h, e.time ≤ moment

theorem EndsBy.mono {a b : Nat} (hb : h.EndsBy a) (hab : a ≤ b) : h.EndsBy b :=
  fun e he => (hb e he).trans hab

theorem EndsBy.cons {moment : Nat} (hb : h.EndsBy moment) (he : moment ≤ e.time) :
    EndsBy (e :: h) e.time :=
  List.forall_mem_cons.mpr ⟨le_rfl, hb.mono he⟩

theorem EndsBy.asOf_eq {moment : Nat} (hb : h.EndsBy moment) : h.asOf moment = h :=
  List.filter_eq_self.mpr fun e he => by simpa using hb e he

theorem asOf_cons_of_lt {moment : Nat} (he : moment < e.time) :
    asOf (e :: h) moment = asOf h moment :=
  List.filter_cons_of_neg (by simpa using he)

end History

end Rollcall
