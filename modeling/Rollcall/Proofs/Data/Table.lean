import Rollcall.Data.Table
import Mathlib.Algebra.Order.BigOperators.Group.List
import Mathlib.Algebra.Order.Ring.Nat
import Mathlib.Data.List.Nodup

/-!
# Tables in which no key occurs twice

In such a table the entries are exactly what the lookup sees, so a filter acts on the lookup key by
key. The operations keep keys apart: `put` erases the old entry before it adds the new one. So a sum
over the values changes by what is erased and what is added.
-/

namespace Rollcall.Table

variable {K V : Type}

theorem unique_empty : (empty : Table K V).Unique := List.nodup_nil

theorem Unique.filter {t : Table K V} (h : t.Unique) (p : K → V → Bool) : (t.filter p).Unique :=
  h.sublist ((List.filter_sublist (l := t.entries)).map Prod.fst)

theorem filter_congr {t : Table K V} {p q : K → V → Bool}
    (h : ∀ e ∈ t.entries, p e.1 e.2 = q e.1 e.2) : t.filter p = t.filter q := by
  unfold Table.filter
  rw [List.filter_congr h]

theorem filter_filter (t : Table K V) (p q : K → V → Bool) :
    (t.filter p).filter q = t.filter fun k v => p k v && q k v := by
  unfold Table.filter
  rw [List.filter_filter]
  simp only [Bool.and_comm]

theorem filter_eq_self {t : Table K V} {p : K → V → Bool}
    (h : ∀ e ∈ t.entries, p e.1 e.2 = true) : t.filter p = t := by
  unfold Table.filter
  rw [List.filter_eq_self.mpr h]

def total (t : Table K V) (rank : V → Nat) : Nat := (t.values.map rank).sum

theorem total_filter_le (t : Table K V) (p : K → V → Bool) (rank : V → Nat) :
    (t.filter p).total rank ≤ t.total rank := by
  have hsub : ((t.filter p).values.map rank).Sublist (t.values.map rank) :=
    (List.filter_sublist.map Prod.snd).map rank
  exact hsub.sum_le_sum fun _ _ => Nat.zero_le _

theorem total_le (t : Table K V) {rank : V → Nat} {bound : Nat} (h : ∀ v, rank v ≤ bound) :
    t.total rank ≤ t.size * bound := by
  have hle := List.sum_le_card_nsmul (t.values.map rank) bound fun x hx => by
    obtain ⟨v, -, rfl⟩ := List.mem_map.mp hx
    exact h v
  simpa [total, size, values] using hle

variable [DecidableEq K]

theorem mem_entries_of_get? {t : Table K V} {k : K} {v : V} (h : t.get? k = some v) :
    (k, v) ∈ t.entries := by
  obtain ⟨earlier, later, heq, -⟩ := List.lookup_eq_some_iff.mp h
  rw [heq]
  simp

theorem Unique.get?_of_mem {t : Table K V} (h : t.Unique) {k : K} {v : V}
    (hm : (k, v) ∈ t.entries) : t.get? k = some v := by
  obtain ⟨earlier, later, heq⟩ := List.append_of_mem hm
  refine List.lookup_eq_some_iff.mpr ⟨earlier, later, heq, fun e he => ?_⟩
  unfold Unique at h
  rw [heq, List.map_append, List.map_cons, List.nodup_middle, List.nodup_cons] at h
  have hk : e.1 ∈ earlier.map Prod.fst := List.mem_map_of_mem he
  have hne : k ≠ e.1 := fun heq => h.1 (List.mem_append_left _ (heq ▸ hk))
  simpa using hne

theorem Unique.mem_entries_iff {t : Table K V} (h : t.Unique) {k : K} {v : V} :
    (k, v) ∈ t.entries ↔ t.get? k = some v :=
  ⟨h.get?_of_mem, mem_entries_of_get?⟩

/-- A filter is seen by the lookup as a filter of what it finds. -/
theorem Unique.get?_filter {t : Table K V} (h : t.Unique) (p : K → V → Bool) (k : K) :
    (t.filter p).get? k = (t.get? k).filter (p k) := by
  ext v
  rw [← (h.filter p).mem_entries_iff, Option.filter_eq_some_iff, ← h.mem_entries_iff]
  simp [Table.filter]

theorem Unique.get?_of_filter {t : Table K V} (h : t.Unique) {p : K → V → Bool} {k : K} {v : V}
    (hv : (t.filter p).get? k = some v) : t.get? k = some v := by
  rw [h.get?_filter, Option.filter_eq_some_iff] at hv
  exact hv.1

theorem contains_iff {t : Table K V} {k : K} : t.contains k = true ↔ ∃ v, t.get? k = some v :=
  Option.isSome_iff_exists

theorem Unique.put {t : Table K V} (h : t.Unique) (k : K) (v : V) : (t.put k v).Unique := by
  refine List.nodup_cons.mpr ⟨fun hk => ?_, h.filter _⟩
  obtain ⟨e, he, hek⟩ := List.mem_map.mp hk
  simp only [erase, Table.filter, List.mem_filter, decide_eq_true_eq] at he
  exact he.2 hek

theorem filter_erase (t : Table K V) (p : K → V → Bool) (k : K) :
    (t.erase k).filter p = (t.filter p).erase k := by
  simp only [erase, filter_filter, Bool.and_comm]

theorem put_erase (t : Table K V) (k : K) (v : V) : (t.erase k).put k v = t.put k v := by
  simp only [Table.put, erase, filter_filter, Bool.and_self]

theorem filter_put (t : Table K V) (p : K → V → Bool) (k : K) (v : V) :
    (t.put k v).filter p = if p k v then (t.filter p).put k v else (t.filter p).erase k := by
  have hrest : ((t.erase k).entries.filter fun e => p e.1 e.2) = ((t.filter p).erase k).entries :=
    congrArg entries (filter_erase t p k)
  simp only [Table.put, Table.filter, List.filter_cons] at hrest ⊢
  split
  · rw [hrest]
  · exact congrArg mk hrest

theorem Unique.total_erase {t : Table K V} (h : t.Unique) {k : K} {v : V} (hv : t.get? k = some v)
    (rank : V → Nat) : (t.erase k).total rank + rank v = t.total rank := by
  obtain ⟨earlier, later, heq, -⟩ := List.lookup_eq_some_iff.mp hv
  have hk : ∀ e ∈ earlier ++ later, e.1 ≠ k := by
    unfold Unique at h
    rw [heq, List.map_append, List.map_cons, List.nodup_middle, List.nodup_cons,
      ← List.map_append] at h
    rintro e he rfl
    exact h.1 (List.mem_map.mpr ⟨e, he, rfl⟩)
  have herase : (t.erase k).entries = earlier ++ later := by
    show t.entries.filter _ = _
    rw [heq, List.filter_append, List.filter_cons_of_neg (by simp), ← List.filter_append]
    exact List.filter_eq_self.mpr fun e he => decide_eq_true (hk e he)
  simp only [total, values, herase, heq, List.map_append, List.map_cons, List.sum_append,
    List.sum_cons]
  omega

theorem total_put (t : Table K V) (k : K) (v : V) (rank : V → Nat) :
    (t.put k v).total rank = rank v + (t.erase k).total rank := rfl

end Rollcall.Table
