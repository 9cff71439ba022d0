import Rollcall.Proofs.Url.Percent
import Rollcall.Url.Reader
import Mathlib.Data.List.DropRight

/-!
# Segments of a web path

The parts of a text between slashes become the segments of a path, percent encoded, except that dot
segments are resolved. What the path stands for, percent decoded, is never longer than the text, and
shorter if there is a dot segment.
-/

namespace Rollcall.Url

open Text (utf8)

/-- What the path of a URL stands for: its bytes after percent decoding. -/
def decodedPath (u : Url) : List UInt8 := percentDecode u.path.text.toList

def spelled (segments : List String) : List UInt8 :=
  percentDecode (Path.text (.segments segments)).toList

theorem toList_text_segments (l : List String) :
    (Path.text (.segments l)).toList = l.flatMap fun s => '/' :: s.toList := by
  simp [Path.text, String.toList_join, List.flatMap_map]

theorem percentDecode_slash (cs : List Char) :
    percentDecode ('/' :: cs) = String.utf8EncodeChar '/' ++ percentDecode cs :=
  percentDecode_cons rfl

theorem spelled_append (l : List String) (segment : List Char) :
    spelled (l ++ [String.ofList segment]) = spelled l ++ percentDecode ('/' :: segment) := by
  unfold spelled
  rw [toList_text_segments, toList_text_segments, List.flatMap_append, List.flatMap_singleton,
    String.toList_ofList, percentDecode_append_slash]

theorem length_spelled_dropLast_le (l : List String) :
    (spelled l.dropLast).length ≤ (spelled l).length := by
  rcases List.eq_nil_or_concat l with rfl | ⟨l, s, rfl⟩
  · rfl
  · rw [List.concat_eq_append, List.dropLast_concat, ← String.ofList_toList (s := s),
      spelled_append, List.length_append]
    omega

/-- The segment is taken for one or two points. -/
def isDotted (segment : List Char) : Bool :=
  isDoubleDot (percentEncode isEncodedInPath segment) ||
    isSingleDot (percentEncode isEncodedInPath segment)

theorem toLower_eq_iff {c d : Char} :
    c.toLower = d ↔
      if 65 ≤ c.toNat ∧ c.toNat ≤ 90 then d.toNat = c.toNat + 32 else c = d := by
  have hrange : (c.val ≥ 'A'.val ∧ c.val ≤ 'Z'.val) ↔ 65 ≤ c.toNat ∧ c.toNat ≤ 90 := Iff.rfl
  unfold Char.toLower
  split
  · next h =>
    rw [if_pos (hrange.mp h), ← Char.toNat_inj]
    have hlow := hrange.mp h
    have hval : (c.val + ('a'.val - 'A'.val)).toNat = c.toNat + 32 := by
      rw [UInt32.toNat_add, show ('a'.val - 'A'.val).toNat = 32 by decide]
      exact Nat.mod_eq_of_lt (by unfold Char.toNat at hlow; omega)
    exact ⟨fun heq => heq ▸ hval, fun heq => hval.trans heq.symm⟩
  · next h => rw [if_neg fun hlow => h (hrange.mpr hlow)]

theorem eq_of_toLower_eq {c d : Char} (h : c.toLower = d) (hd : d.toNat < 97) : c = d := by
  have := toLower_eq_iff.mp h
  split_ifs at this
  · omega
  · exact this

theorem hexDigit?_of_toLower_eq_e {c : Char} (h : c.toLower = 'e') :
    Text.hexDigit? c = some 14 := by
  have hc := toLower_eq_iff.mp h
  split_ifs at hc
  · obtain rfl : c = 'E' := Char.toNat_inj.mp (by simpa using hc.symm)
    decide
  · subst hc
    decide

theorem percentDecode_of_isSingleDot {cs : List Char} (h : isSingleDot cs = true) :
    percentDecode cs = utf8 ['.'] := by
  simp only [isSingleDot, List.contains_cons, List.contains_nil, Bool.or_false, Bool.or_eq_true,
    beq_iff_eq, List.map_eq_cons_iff, List.map_eq_nil_iff] at h
  rcases h with ⟨c, _, rfl, hc, rfl⟩ | ⟨c, _, rfl, hc, d, _, rfl, hd, e, _, rfl, he, rfl⟩
  · rw [eq_of_toLower_eq hc (by decide)]
    rfl
  · rw [eq_of_toLower_eq hc (by decide), eq_of_toLower_eq hd (by decide),
      percentDecode_escape (by decide : Text.hexDigit? '2' = some 2)
        (hexDigit?_of_toLower_eq_e he)]
    rfl

theorem percentDecode_of_isDoubleDot {cs : List Char} (h : isDoubleDot cs = true) :
    percentDecode cs = utf8 ['.', '.'] := by
  have htwo : Text.hexDigit? '2' = some 2 := by decide
  simp only [isDoubleDot, List.contains_cons, List.contains_nil, Bool.or_false, Bool.or_eq_true,
    beq_iff_eq, List.map_eq_cons_iff, List.map_eq_nil_iff] at h
  rcases h with ⟨p, _, rfl, hp, q, _, rfl, hq, rfl⟩ |
    ⟨p, _, rfl, hp, s, _, rfl, hs, t, _, rfl, ht, e, _, rfl, he, rfl⟩ |
    ⟨s, _, rfl, hs, t, _, rfl, ht, e, _, rfl, he, p, _, rfl, hp, rfl⟩ |
    ⟨s, _, rfl, hs, t, _, rfl, ht, e, _, rfl, he, s', _, rfl, hs', t', _, rfl, ht', e', _, rfl,
      he', rfl⟩
  · rw [eq_of_toLower_eq hp (by decide), eq_of_toLower_eq hq (by decide)]
    rfl
  · rw [eq_of_toLower_eq hp (by decide), eq_of_toLower_eq hs (by decide),
      eq_of_toLower_eq ht (by decide), percentDecode_cons rfl,
      percentDecode_escape htwo (hexDigit?_of_toLower_eq_e he)]
    rfl
  · rw [eq_of_toLower_eq hp (by decide), eq_of_toLower_eq hs (by decide),
      eq_of_toLower_eq ht (by decide), percentDecode_escape htwo (hexDigit?_of_toLower_eq_e he)]
    rfl
  · rw [eq_of_toLower_eq hs (by decide), eq_of_toLower_eq ht (by decide),
      eq_of_toLower_eq hs' (by decide), eq_of_toLower_eq ht' (by decide),
      percentDecode_escape htwo (hexDigit?_of_toLower_eq_e he),
      percentDecode_escape htwo (hexDigit?_of_toLower_eq_e he')]
    rfl

theorem percentDecode_of_isDotted {segment : List Char} (h : isDotted segment = true) :
    percentDecode segment = utf8 ['.'] ∨ percentDecode segment = utf8 ['.', '.'] := by
  rw [← percentDecode_percentEncode sparesEscapes_path]
  rcases Bool.or_eq_true_iff.mp h with h | h
  · exact .inr (percentDecode_of_isDoubleDot h)
  · exact .inl (percentDecode_of_isSingleDot h)

theorem isDotted_iff {segment : List Char} (h : hasEscape segment = false) :
    isDotted segment = true ↔ segment = ['.'] ∨ segment = ['.', '.'] := by
  constructor
  · intro hd
    have hdecoded := percentDecode_of_isDotted hd
    rw [percentDecode_of_not_hasEscape h] at hdecoded
    exact hdecoded.imp (Text.utf8_injective ·) (Text.utf8_injective ·)
  · rintro (rfl | rfl) <;> decide

theorem addSegment_of_not_isDotted {segment : List Char} (h : isDotted segment = false)
    (path : List String) (more : Bool) :
    addSegment .web path segment more =
      path ++ [String.ofList (percentEncode isEncodedInPath segment)] := by
  rw [isDotted, Bool.or_eq_false_iff] at h
  simp [addSegment, h.1, h.2]

theorem shorten_web (path : List String) : shorten .web path = path.dropLast := by
  unfold shorten
  split <;> simp

/-- A dotted segment adds less than it takes to write it. -/
theorem length_spelled_addSegment_lt {segment : List Char} (h : isDotted segment = true)
    (path : List String) (more : Bool) :
    (spelled (addSegment .web path segment more)).length <
      (spelled path).length + (utf8 ('/' :: segment)).length := by
  have hslash : (percentDecode ['/']).length = 1 := by decide
  have hempty : ∀ l, (spelled (l ++ [""])).length = (spelled l).length + 1 := fun l => by
    rw [← String.ofList_nil, spelled_append, List.length_append, hslash]
  have hdrop := length_spelled_dropLast_le path
  have hle := (length_percentDecode segment).1
  have hcons : (utf8 ('/' :: segment)).length = 1 + (utf8 segment).length := by
    rw [Text.utf8_cons, List.length_append]
    rfl
  unfold addSegment
  rw [shorten_web, hcons]
  by_cases hdouble : isDoubleDot (percentEncode isEncodedInPath segment) = true
  · have htwo : (percentDecode segment).length = 2 := by
      rw [← percentDecode_percentEncode sparesEscapes_path,
        percentDecode_of_isDoubleDot hdouble]
      rfl
    simp only [hdouble, if_true]
    cases more <;> simp only [if_true, Bool.false_eq_true, if_false, hempty] <;> omega
  · have hsingle : isSingleDot (percentEncode isEncodedInPath segment) = true := by
      simpa [isDotted, hdouble] using h
    have hone : (percentDecode segment).length = 1 := by
      rw [← percentDecode_percentEncode sparesEscapes_path,
        percentDecode_of_isSingleDot hsingle]
      rfl
    simp only [hdouble, hsingle, if_true]
    cases more <;> simp only [if_true, Bool.false_eq_true, if_false, hempty] <;> omega

theorem percentDecode_slash_percentEncode (segment : List Char) :
    percentDecode ('/' :: percentEncode isEncodedInPath segment) =
      percentDecode ('/' :: segment) := by
  rw [percentDecode_slash, percentDecode_slash, percentDecode_percentEncode sparesEscapes_path]

def addParts (path : List String) : List (List Char) → List String
  | [] => path
  | [last] => addSegment .web path last false
  | part :: next :: parts => addParts (addSegment .web path part true) (next :: parts)

theorem addSegments_eq_addParts (path : List String) (before cs : List Char) :
    addSegments .web path before cs =
      addParts path (cs.splitOnPPrepend (isSlash .web) before) := by
  induction cs generalizing path before with
  | nil => rfl
  | cons c rest ih =>
    rw [addSegments]
    cases hc : isSlash .web c with
    | true =>
      rw [if_pos rfl, List.splitOnPPrepend_cons_pos hc, ih, ← List.splitOnP_eq_splitOnPPrepend]
      obtain ⟨next, parts, hparts⟩ :=
        List.exists_cons_of_ne_nil (List.splitOnP_ne_nil (isSlash .web) rest)
      rw [hparts, addParts]
    | false => rw [if_neg Bool.false_ne_true, List.splitOnPPrepend_cons_neg hc, ih]

theorem addParts_of_not_isDotted {parts : List (List Char)}
    (h : ∀ part ∈ parts, isDotted part = false) (path : List String) :
    addParts path parts =
      path ++ parts.map fun part => String.ofList (percentEncode isEncodedInPath part) := by
  induction parts generalizing path with
  | nil => simp [addParts]
  | cons part parts ih =>
    have hpart := h part List.mem_cons_self
    cases parts with
    | nil => rw [addParts, addSegment_of_not_isDotted hpart]; rfl
    | cons next parts =>
      rw [addParts, addSegment_of_not_isDotted hpart,
        ih fun part hp => h part (List.mem_cons_of_mem _ hp)]
      simp

def slashed (parts : List (List Char)) : List Char := parts.flatMap ('/' :: ·)

theorem slashed_cons (part : List Char) (parts : List (List Char)) :
    slashed (part :: parts) = '/' :: part ++ slashed parts := rfl

theorem percentDecode_append_slashed (cs : List Char) (parts : List (List Char)) :
    percentDecode (cs ++ slashed parts) = percentDecode cs ++ percentDecode (slashed parts) := by
  cases parts with
  | nil => simp [slashed, percentDecode]
  | cons part parts => exact percentDecode_append_slash cs _

theorem spelled_addParts_of_not_isDotted {parts : List (List Char)}
    (h : ∀ part ∈ parts, isDotted part = false) (path : List String) :
    spelled (addParts path parts) = spelled path ++ percentDecode (slashed parts) := by
  rw [addParts_of_not_isDotted h]
  clear h
  induction parts generalizing path with
  | nil => simp [slashed, percentDecode]
  | cons part parts ih =>
    rw [List.map_cons, List.append_cons, ih, spelled_append, slashed_cons,
      percentDecode_append_slashed, percentDecode_slash_percentEncode, List.append_assoc]

/-- Nothing is added that is not written, and a dotted part takes something away. -/
theorem length_spelled_addParts (path : List String) (parts : List (List Char)) :
    (spelled (addParts path parts)).length ≤
        (spelled path).length + (utf8 (slashed parts)).length ∧
      ((∃ part ∈ parts, isDotted part = true) → (spelled (addParts path parts)).length <
        (spelled path).length + (utf8 (slashed parts)).length) := by
  have hadd : ∀ (path : List String) (part : List Char) (more : Bool),
      (spelled (addSegment .web path part more)).length ≤
        (spelled path).length + (utf8 ('/' :: part)).length := by
    intro path part more
    cases hd : isDotted part with
    | true => exact (length_spelled_addSegment_lt hd path more).le
    | false =>
      rw [addSegment_of_not_isDotted hd, spelled_append, percentDecode_slash_percentEncode,
        List.length_append]
      exact Nat.add_le_add_left (length_percentDecode _).1 _
  induction parts generalizing path with
  | nil => exact ⟨le_rfl, nofun⟩
  | cons part parts ih =>
    rw [slashed_cons, Text.utf8_append, List.length_append]
    cases parts with
    | nil =>
      have hle := hadd path part false
      simp only [addParts, List.mem_singleton, exists_eq_left, slashed, List.flatMap_nil,
        Text.utf8_nil, List.length_nil, Nat.add_zero]
      exact ⟨hle, fun hd => length_spelled_addSegment_lt hd path false⟩
    | cons next parts =>
      have hle := hadd path part true
      have hrest := ih (addSegment .web path part true)
      rw [addParts]
      refine ⟨by omega, ?_⟩
      rintro ⟨dotted, hmem, hd⟩
      rcases List.mem_cons.mp hmem with rfl | hmem
      · have hlt := length_spelled_addSegment_lt hd path true
        omega
      · have hlt := hrest.2 ⟨dotted, hmem, hd⟩
        omega

end Rollcall.Url
