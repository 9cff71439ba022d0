import Mathlib.Data.List.DropRight
import Rollcall.Proofs.Url.Literal

/-!
# References to paths below a base

A reference that begins with a segment takes the place of the path of its base, and of no other part
of it but query and fragment. If the base is the root of a web server, the path stands for the
reference exactly if the reference is literal.
-/

namespace Rollcall.Url

open Text (utf8)

/-- The character is not dropped from within a text. -/
def isKept (c : Char) : Bool := c ≠ '\t' ∧ c ≠ '\n' ∧ c ≠ '\r'

theorem clean_eq (s : String) : clean s =
    ((s.toList.dropWhile isSpaceOrControl).rdropWhile isSpaceOrControl).filter isKept := rfl

theorem dropWhile_eq_self {p : Char → Bool} {cs : List Char} (h : cs.head?.any p = false) :
    cs.dropWhile p = cs := by
  cases cs with
  | nil => rfl
  | cons c rest => exact List.dropWhile_cons_of_neg (Bool.eq_false_iff.mp h)

theorem rdropWhile_eq_self_iff {p : Char → Bool} {cs : List Char} :
    cs.rdropWhile p = cs ↔ cs.getLast?.any p = false := by
  rw [List.rdropWhile_eq_self_iff]
  cases cs with
  | nil => simp
  | cons c rest => simp [List.getLast?_eq_some_getLast]

/-- The end of a text is cleaned apart from a front that neither begins nor ends with a blank. -/
theorem clean_append {front : List Char} (hne : front ≠ [])
    (hhead : front.head?.any isSpaceOrControl = false)
    (hlast : front.getLast?.any isSpaceOrControl = false) (cs : List Char) :
    clean (String.ofList (front ++ cs)) =
      front.filter isKept ++ (cs.rdropWhile isSpaceOrControl).filter isKept := by
  have hstart : (front ++ cs).head?.any isSpaceOrControl = false := by
    rwa [List.head?_append_of_ne_nil _ hne]
  have hfront : (front.reverse.dropWhile isSpaceOrControl).reverse = front :=
    rdropWhile_eq_self_iff.mpr hlast
  rw [clean_eq, String.toList_ofList, dropWhile_eq_self hstart, ← List.filter_append]
  congr 1
  unfold List.rdropWhile
  rw [List.reverse_append, List.dropWhile_append]
  split
  · next hnil =>
    rw [List.isEmpty_iff.mp hnil, hfront, List.reverse_nil, List.append_nil]
  · rw [List.reverse_append, List.reverse_reverse]

theorem clean_sublist (s : String) : (clean s).Sublist s.toList := by
  rw [clean_eq]
  exact List.filter_sublist.trans
    ((List.rdropWhile_prefix _ _).sublist.trans (List.dropWhile_suffix _).sublist)

theorem of_clean_eq_self {s : String} (h : clean s = s.toList) :
    s.toList.getLast?.any isSpaceOrControl = false ∧ ∀ c ∈ s.toList, isKept c = true := by
  have hall : s.toList.Sublist
      ((s.toList.dropWhile isSpaceOrControl).rdropWhile isSpaceOrControl) :=
    calc s.toList = clean s := h.symm
      _ = _ := clean_eq s
      List.Sublist _ _ := List.filter_sublist
  have hend := List.rdropWhile_prefix isSpaceOrControl (s.toList.dropWhile isSpaceOrControl)
  have hdrop : s.toList.dropWhile isSpaceOrControl = s.toList :=
    (List.dropWhile_suffix _).sublist.antisymm (hall.trans hend.sublist)
  rw [hdrop] at hall
  constructor
  · rw [← rdropWhile_eq_self_iff]
    exact (List.rdropWhile_prefix _ _).sublist.antisymm hall
  · intro c hc
    rw [← h, clean_eq] at hc
    exact (List.mem_filter.mp hc).2

theorem clean_eq_self {s : String} (hhead : s.toList.head?.any isSpaceOrControl = false)
    (hend : s.toList.getLast?.any isSpaceOrControl = false)
    (hkept : ∀ c ∈ s.toList, isKept c = true) : clean s = s.toList := by
  rw [clean_eq, dropWhile_eq_self hhead, rdropWhile_eq_self_iff.mpr hend]
  exact List.filter_eq_self.mpr hkept

/-- The base with another path, and with another query and fragment. -/
def relative (base : Url) (cs : List Char) : Url :=
  replacePath base (readPath base.kind (shorten base.kind base.path.list) cs)

variable {base : Url}

theorem readScheme_eq_none {front : List Char} (hfront : ∀ c ∈ front, isSchemeChar c = true)
    (rest : List Char) : readScheme (front ++ '/' :: rest) = none := by
  have hdrop : (front ++ '/' :: rest).dropWhile isSchemeChar = '/' :: rest := by
    rw [List.dropWhile_append_of_pos hfront]
    exact List.dropWhile_cons_of_neg (by decide)
  unfold readScheme
  rw [hdrop]
  rfl

/-- A reference that begins with a segment is read relative to any base that has a path. -/
theorem join_eq_relative {l : List String} (hpath : base.path = .segments l) {s : String}
    {front rest : List Char} (hne : front ≠ []) (hfront : ∀ c ∈ front, isSchemeChar c = true)
    (hs : clean s = front ++ '/' :: rest) : base.join s = .ok (base.relative (clean s)) := by
  obtain ⟨c, more, rfl⟩ := List.exists_cons_of_ne_nil hne
  have hc : ∀ d, isSchemeChar d = false → c ≠ d := by
    rintro d hd rfl
    rw [hfront c List.mem_cons_self] at hd
    cases hd
  have hslash : ¬ (c = '/' ∨ c = '\\') := not_or.mpr ⟨hc _ (by decide), hc _ (by decide)⟩
  unfold join readCleaned
  rw [hs, readScheme_eq_none hfront rest]
  simp only [hpath]
  rw [List.cons_append]
  simp only [readRelative, if_neg (hc '#' (by decide)), if_neg (hc '?' (by decide)), if_neg hslash]
  rfl

theorem join_of_opaque {text : String} (hpath : base.path = .opaqueText text) {s : String}
    {front rest : List Char} (hne : front ≠ []) (hfront : ∀ c ∈ front, isSchemeChar c = true)
    (hs : clean s = front ++ '/' :: rest) : base.join s = .error .baseCannotBeABase := by
  obtain ⟨c, more, rfl⟩ := List.exists_cons_of_ne_nil hne
  have hc : c ≠ '#' := by
    rintro rfl
    exact absurd (hfront '#' List.mem_cons_self) (by decide)
  unfold join readCleaned
  rw [hs, readScheme_eq_none hfront rest]
  simp only [hpath]
  exact if_neg fun h => hc (Option.some.inj h)

theorem path_relative (hkind : base.kind = .web) (cs : List Char) :
    (base.relative cs).path = .segments (addSegments .web base.path.list.dropLast []
      (cs.takeWhile fun c => !isPathEnd c)) := by
  simp [relative, replacePath, readPath, hkind, shorten_web]

theorem decodedPath_relative (hkind : base.kind = .web) (hpath : base.path = .segments [""])
    (cs : List Char) : (base.relative cs).decodedPath =
      spelled (addSegments .web [] [] (cs.takeWhile fun c => !isPathEnd c)) := by
  unfold decodedPath
  rw [path_relative hkind, hpath]
  rfl

theorem not_mem_marks_iff {c : Char} : c ∉ ['?', '#', '\\', '\t', '\n', '\r'] ↔
    isPathEnd c = false ∧ c ≠ '\\' ∧ isKept c = true := by
  simp only [List.mem_cons, List.not_mem_nil, or_false, not_or, isPathEnd, isKept,
    Bool.or_eq_false_iff, decide_eq_false_iff_not, decide_eq_true_eq]
  tauto

/-- Below the root of a web server, a path stands for a reference exactly if that is literal. -/
theorem decodedPath_relative_iff (hkind : base.kind = .web) (hpath : base.path = .segments [""])
    {s : String} (hs : s.toList.head?.any isSpaceOrControl = false) :
    (base.relative (clean s)).decodedPath = Text.bytes ("/" ++ s) ↔ IsLiteral s.toList := by
  have hbytes : Text.bytes ("/" ++ s) = utf8 ('/' :: s.toList) := by
    rw [Text.bytes_eq_utf8, String.toList_append]
    rfl
  rw [decodedPath_relative hkind hpath, hbytes]
  constructor
  · intro h
    have hpart : ((clean s).takeWhile fun c => !isPathEnd c).Sublist (clean s) :=
      (List.takeWhile_prefix _).sublist
    have hsub := hpart.trans (clean_sublist s)
    have hle := length_spelled_addSegments_le ((clean s).takeWhile fun c => !isPathEnd c)
    rw [h] at hle
    simp only [Text.utf8_cons, List.length_append, add_le_add_iff_left] at hle
    -- nothing has been lost, so nothing was cut off or dropped
    have heq := (Text.length_utf8_sublist hsub).2 hle
    have hclean : clean s = s.toList := (clean_sublist s).antisymm (heq ▸ hpart)
    rw [heq] at h
    obtain ⟨hback, hescape, hdots⟩ := (spelled_addSegments_iff _).mp h
    obtain ⟨hend, hkept⟩ := of_clean_eq_self hclean
    refine ⟨fun c hc => not_mem_marks_iff.mpr ⟨?_, ?_, hkept c hc⟩, hend, hescape, hdots⟩
    · rw [← heq] at hc
      simpa using List.mem_takeWhile_imp hc
    · rintro rfl
      exact hback hc
  · intro h
    have hmarks := fun c hc => not_mem_marks_iff.mp (h.no_mark c hc)
    have hclean : clean s = s.toList :=
      clean_eq_self hs h.no_blank_end fun c hc => (hmarks c hc).2.2
    have htake : (s.toList.takeWhile fun c => !isPathEnd c) = s.toList :=
      List.takeWhile_eq_self_iff.mpr fun c hc => by simpa using (hmarks c hc).1
    rw [hclean, htake]
    refine (spelled_addSegments_iff _).mpr ⟨fun hmem => ?_, h.no_escape, h.no_dots⟩
    exact h.no_mark _ hmem (by decide)

end Rollcall.Url
