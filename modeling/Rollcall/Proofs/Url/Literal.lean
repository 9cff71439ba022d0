import Mathlib
import Rollcall.Proofs.Url.Segments

/-!
# Literal texts

A text stands for itself in the path of a web URL exactly if nothing on the way to the path finds
anything to do with it: it is not cut off at a query or a fragment, none of its characters is
dropped or taken for a slash, no part of it is a dot segment, and none can be taken for an escape.
-/

namespace Rollcall.Url

open Text (utf8)

/-- The text stands for itself in the path of a web URL, after a slash and before the end. It has no
mark that ends a path, parts it in another way, or is dropped from it; it does not end with a blank,
which would be dropped, too; and it has neither escapes nor dot segments. -/
structure IsLiteral (cs : List Char) : Prop where
  no_mark : ∀ c ∈ cs, c ∉ ['?', '#', '\\', '\t', '\n', '\r']
  no_blank_end : cs.getLast?.any isSpaceOrControl = false
  no_escape : hasEscape cs = false
  no_dots : ∀ part ∈ cs.splitOn '/', part ≠ ['.'] ∧ part ≠ ['.', '.']

instance (cs : List Char) : Decidable (IsLiteral cs) :=
  decidable_of_iff
    ((∀ c ∈ cs, c ∉ ['?', '#', '\\', '\t', '\n', '\r']) ∧
      cs.getLast?.any isSpaceOrControl = false ∧ hasEscape cs = false ∧
      ∀ part ∈ cs.splitOn '/', part ≠ ['.'] ∧ part ≠ ['.', '.'])
    ⟨fun ⟨h₁, h₂, h₃, h₄⟩ => ⟨h₁, h₂, h₃, h₄⟩, fun ⟨h₁, h₂, h₃, h₄⟩ => ⟨h₁, h₂, h₃, h₄⟩⟩

theorem isLiteral_append_slash {front : List Char} (hf : IsLiteral front) (cs : List Char) :
    IsLiteral (front ++ '/' :: cs) ↔ IsLiteral cs := by
  have hlast : (front ++ '/' :: cs).getLast? = some (cs.getLast?.getD '/') := by
    rw [List.getLast?_append, List.getLast?_cons]
    rfl
  have hsplit : (front ++ '/' :: cs).splitOn '/' = front.splitOn '/' ++ cs.splitOn '/' :=
    List.splitOn_append_cons_self _ _
  constructor
  · intro h
    refine ⟨fun c hc => h.no_mark c (by simp [hc]), ?_, ?_, fun part hp => ?_⟩
    · have hend := h.no_blank_end
      rw [hlast] at hend
      cases hcs : cs.getLast? with
      | none => rfl
      | some d => rwa [hcs] at hend
    · have hno := h.no_escape
      rw [hasEscape_append_slash, Bool.or_eq_false_iff] at hno
      exact hno.2
    · exact h.no_dots part (by rw [hsplit]; exact List.mem_append_right _ hp)
  · intro h
    refine ⟨fun c hc => ?_, ?_, ?_, fun part hp => ?_⟩
    · rcases List.mem_append.mp hc with hc | hc
      · exact hf.no_mark c hc
      · rcases List.mem_cons.mp hc with rfl | hc
        · decide
        · exact h.no_mark c hc
    · rw [hlast]
      cases hcs : cs.getLast? with
      | none => decide
      | some d => exact hcs ▸ h.no_blank_end
    · rw [hasEscape_append_slash, hf.no_escape, h.no_escape]
      rfl
    · rw [hsplit] at hp
      exact (List.mem_append.mp hp).elim (hf.no_dots part) (h.no_dots part)

/-- A text with every separator of a web path written as a slash. -/
def straighten (cs : List Char) : List Char := cs.map fun c => if isSlash .web c then '/' else c

theorem isSlash_web_iff {c : Char} : isSlash .web c = true ↔ c = '/' ∨ c = '\\' := by
  simp [isSlash]

theorem slashed_splitOnPPrepend (before cs : List Char) :
    slashed (cs.splitOnPPrepend (isSlash .web) before) =
      '/' :: (before.reverse ++ straighten cs) := by
  induction cs generalizing before with
  | nil => simp [slashed, straighten]
  | cons c rest ih =>
    cases hc : isSlash .web c with
    | true =>
      rw [List.splitOnPPrepend_cons_pos hc, slashed_cons, List.splitOnP_eq_splitOnPPrepend, ih]
      simp [straighten, hc]
    | false =>
      rw [List.splitOnPPrepend_cons_neg hc, ih]
      simp [straighten, hc]

theorem slashed_splitOnP (cs : List Char) :
    slashed (cs.splitOnP (isSlash .web)) = '/' :: straighten cs := by
  rw [List.splitOnP_eq_splitOnPPrepend, slashed_splitOnPPrepend]
  rfl

theorem length_utf8_straighten (cs : List Char) :
    (utf8 (straighten cs)).length = (utf8 cs).length := by
  induction cs with
  | nil => rfl
  | cons c rest ih =>
    have hc : (String.utf8EncodeChar (if isSlash .web c then '/' else c)).length =
        (String.utf8EncodeChar c).length := by
      split
      · next hslash =>
        rcases isSlash_web_iff.mp hslash with rfl | rfl <;> rfl
      · rfl
    rw [straighten, List.map_cons, Text.utf8_cons, Text.utf8_cons, List.length_append,
      List.length_append, hc, ← ih]
    rfl

theorem straighten_eq_self_iff {cs : List Char} : straighten cs = cs ↔ '\\' ∉ cs := by
  unfold straighten
  nth_rewrite 2 [← List.map_id cs]
  rw [List.map_inj_left]
  constructor
  · intro h hmem
    exact absurd (h _ hmem) (by decide)
  · intro h c hc
    split
    · next hslash =>
      rcases isSlash_web_iff.mp hslash with rfl | rfl
      · rfl
      · exact absurd hc h
    · rfl

theorem splitOnP_eq_splitOn {cs : List Char} (h : '\\' ∉ cs) :
    cs.splitOnP (isSlash .web) = cs.splitOn '/' := by
  rw [List.splitOn_eq_splitOnP]
  induction cs with
  | nil => rfl
  | cons c rest ih =>
    rw [List.mem_cons, not_or] at h
    have hc : isSlash .web c = (c == '/') := by
      have hne : (c = '\\') = False := eq_false fun heq => h.1 heq.symm
      simp [isSlash, hne, beq_eq_decide]
    rw [List.splitOnP_cons_eq_if_modifyHead, List.splitOnP_cons_eq_if_modifyHead, hc, ih h.2]

theorem slashed_splitOn {cs : List Char} (h : '\\' ∉ cs) :
    slashed (cs.splitOn '/') = '/' :: cs := by
  rw [← splitOnP_eq_splitOn h, slashed_splitOnP, straighten_eq_self_iff.mpr h]

theorem hasEscape_slashed (parts : List (List Char)) :
    hasEscape (slashed parts) = parts.any hasEscape := by
  induction parts with
  | nil => rfl
  | cons part parts ih =>
    have hslash : ∀ cs, hasEscape ('/' :: cs) = hasEscape cs := fun cs => rfl
    rw [List.any_cons, ← ih, slashed_cons, List.cons_append, hslash]
    cases parts with
    | nil => simp [slashed, hasEscape]
    | cons next parts => rw [slashed_cons, List.cons_append, hasEscape_append_slash, hslash]

theorem length_spelled_addSegments_le (cs : List Char) :
    (spelled (addSegments .web [] [] cs)).length ≤ (utf8 ('/' :: cs)).length := by
  have hle := (length_spelled_addParts [] (cs.splitOnP (isSlash .web))).1
  rw [addSegments_eq_addParts, ← List.splitOnP_eq_splitOnPPrepend]
  rw [slashed_splitOnP, Text.utf8_cons, List.length_append, length_utf8_straighten] at hle
  simpa [spelled, Path.text, percentDecode] using hle

theorem hasEscape_of_mem_splitOn {cs part : List Char} (hback : '\\' ∉ cs)
    (hescape : hasEscape cs = false) (hp : part ∈ cs.splitOn '/') : hasEscape part = false := by
  have hany := hasEscape_slashed (cs.splitOn '/')
  rw [slashed_splitOn hback, show hasEscape ('/' :: cs) = hasEscape cs from rfl, hescape] at hany
  exact Bool.eq_false_iff.mpr (List.any_eq_false.mp hany.symm part hp)

theorem forall_not_isDotted_iff {cs : List Char} (hback : '\\' ∉ cs)
    (hescape : hasEscape cs = false) : (∀ part ∈ cs.splitOn '/', isDotted part = false) ↔
      ∀ part ∈ cs.splitOn '/', part ≠ ['.'] ∧ part ≠ ['.', '.'] := by
  refine forall₂_congr fun part hp => ?_
  rw [← not_or, ← isDotted_iff (hasEscape_of_mem_splitOn hback hescape hp), Bool.not_eq_true]

/-- A text without marks stands for itself exactly if no part of it is an escape or a dot
segment, and no backslash takes the place of a slash. -/
theorem spelled_addSegments_iff (cs : List Char) :
    spelled (addSegments .web [] [] cs) = utf8 ('/' :: cs) ↔
      '\\' ∉ cs ∧ hasEscape cs = false ∧
        ∀ part ∈ cs.splitOn '/', part ≠ ['.'] ∧ part ≠ ['.', '.'] := by
  have hnil : spelled [] = [] := rfl
  rw [addSegments_eq_addParts, ← List.splitOnP_eq_splitOnPPrepend]
  constructor
  · intro h
    have hlen := (length_spelled_addParts [] (cs.splitOnP (isSlash .web))).2
    rw [h, slashed_splitOnP, hnil, Text.utf8_cons, Text.utf8_cons, List.length_append,
      List.length_append, length_utf8_straighten] at hlen
    have hdots : ∀ part ∈ cs.splitOnP (isSlash .web), isDotted part = false := by
      intro part hp
      by_contra hd
      have := hlen ⟨part, hp, Bool.not_eq_false _ ▸ hd⟩
      simp at this
    rw [spelled_addParts_of_not_isDotted hdots, hnil, List.nil_append, slashed_splitOnP,
      percentDecode_slash, Text.utf8_cons] at h
    have hdecoded := List.append_cancel_left h
    have hescape : hasEscape (straighten cs) = false := by
      by_contra he
      have hlt := (length_percentDecode _).2 (Bool.not_eq_false _ ▸ he)
      rw [hdecoded, length_utf8_straighten] at hlt
      exact lt_irrefl _ hlt
    rw [percentDecode_of_not_hasEscape hescape] at hdecoded
    have hself := Text.utf8_injective hdecoded
    have hback := straighten_eq_self_iff.mp hself
    rw [hself] at hescape
    rw [splitOnP_eq_splitOn hback] at hdots
    exact ⟨hback, hescape, (forall_not_isDotted_iff hback hescape).mp hdots⟩
  · rintro ⟨hback, hescape, hparts⟩
    have hdots := (forall_not_isDotted_iff hback hescape).mpr hparts
    rw [splitOnP_eq_splitOn hback, spelled_addParts_of_not_isDotted hdots, slashed_splitOn hback,
      hnil, List.nil_append, percentDecode_slash, percentDecode_of_not_hasEscape hescape,
      Text.utf8_cons]

def isPlain (c : Char) : Bool := c.isAlphanum || c = '-' || c = '_' || c = '/'

theorem toNat_of_isPlain {c : Char} (h : isPlain c = true) : 0x20 < c.toNat := by
  have hrange : c.isAlphanum = true → 48 ≤ c.toNat := by
    simp only [Char.isAlphanum, Char.isAlpha, Char.isUpper, Char.isLower, Char.isDigit,
      Bool.or_eq_true, Bool.and_eq_true, decide_eq_true_eq, ge_iff_le, UInt32.le_iff_toNat_le]
    rintro ((h | h) | h)
    · exact le_trans (by decide) h.1
    · exact le_trans (by decide) h.1
    · exact h.1
  simp only [isPlain, Bool.or_eq_true, decide_eq_true_eq] at h
  rcases h with ((h | rfl) | rfl) | rfl
  · have := hrange h
    omega
  · decide
  · decide
  · decide

theorem hasEscape_of_not_mem {cs : List Char} (h : '%' ∉ cs) : hasEscape cs = false := by
  induction cs with
  | nil => rfl
  | cons c rest ih =>
    rw [List.mem_cons, not_or] at h
    rw [hasEscape, ih h.2, decide_eq_false fun heq => h.1 heq.symm]
    rfl

theorem isLiteral_of_isPlain {cs : List Char} (h : ∀ c ∈ cs, isPlain c = true) : IsLiteral cs := by
  have hnot : ∀ c, isPlain c = false → c ∉ cs := fun c hc hmem =>
    Bool.false_ne_true (hc.symm.trans (h c hmem))
  refine ⟨fun c hc hmark => ?_, ?_, hasEscape_of_not_mem (hnot '%' (by decide)), ?_⟩
  · have hplain : ∀ d ∈ ['?', '#', '\\', '\t', '\n', '\r'], isPlain d = false := by
      simp [isPlain]
    exact hnot c (hplain c hmark) hc
  · cases hlast : cs.getLast? with
    | none => rfl
    | some d =>
      exact decide_eq_false (toNat_of_isPlain (h d (List.mem_of_getLast? hlast))).not_ge
  · have hdot : ∀ part ∈ cs.splitOn '/', '.' ∉ part := by
      intro part hpart hmem
      have : '.' ∈ slashed (cs.splitOn '/') :=
        List.mem_flatMap.mpr ⟨part, hpart, List.mem_cons_of_mem _ hmem⟩
      rw [slashed_splitOn (hnot '\\' (by decide))] at this
      exact hnot '.' (by decide) ((List.mem_cons.mp this).resolve_left (by decide))
    exact fun part hpart => ⟨fun heq => hdot part hpart (by rw [heq]; decide),
      fun heq => hdot part hpart (by rw [heq]; decide)⟩

end Rollcall.Url
