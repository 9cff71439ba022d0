import Rollcall.Data.SortedSet
import Rollcall.Proofs.Text.ByteOrder

/-!
# Sets of texts are in order

The list that stands for a set of texts ascends strictly, hence names no member twice, and as texts
are ordered like their bytes it ascends byte by byte too.
-/

namespace Rollcall.SortedSet

theorem pairwise_insert (s : String) {l : List String} (h : l.Pairwise (· < ·)) :
    (insert s l).Pairwise (· < ·) := by
  induction l with
  | nil => exact List.pairwise_singleton _ s
  | cons t l ih =>
    rw [List.pairwise_cons] at h
    obtain ⟨ht, hl⟩ := h
    unfold insert
    split_ifs with hst heq
    · refine List.pairwise_cons.mpr ⟨fun u hu => ?_, List.pairwise_cons.mpr ⟨ht, hl⟩⟩
      rcases List.mem_cons.mp hu with rfl | hu
      · exact hst
      · exact String.lt_trans hst (ht u hu)
    · exact List.pairwise_cons.mpr ⟨ht, hl⟩
    · refine List.pairwise_cons.mpr ⟨fun u hu => ?_, ih hl⟩
      rcases mem_insert.mp hu with rfl | hu
      · by_contra htu
        exact heq (String.le_antisymm (String.not_lt.mp htu) (String.not_lt.mp hst))
      · exact ht u hu

theorem pairwise_ofList (l : List String) : (ofList l).Pairwise (· < ·) := by
  induction l with
  | nil => exact List.Pairwise.nil
  | cons s l ih => exact pairwise_insert s ih

theorem nodup_ofList (l : List String) : (ofList l).Nodup := by
  refine (pairwise_ofList l).imp ?_
  rintro s t h rfl
  exact String.lt_irrefl s h

theorem byteLess_ofList (l : List String) : (ofList l).Pairwise Text.ByteLess :=
  (pairwise_ofList l).imp Text.byteLess_of_lt

end Rollcall.SortedSet
