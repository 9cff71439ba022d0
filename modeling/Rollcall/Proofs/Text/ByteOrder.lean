import Mathlib.Tactic

/-!
# Texts in the order of their bytes

Texts are compared character by character. Their encodings in UTF-8 are compared byte by byte with
the same result: of two different characters the smaller one has, at the first byte where the two
encodings differ, the smaller byte.
-/

namespace Rollcall.Text

/-- The bytes of a text in UTF-8. -/
def bytes (s : String) : List UInt8 := s.toUTF8.data.toList

theorem fromUTF8?_eq_some_iff {a : ByteArray} {s : String} :
    String.fromUTF8? a = some s ↔ a = s.toUTF8 := by
  rw [String.toUTF8_eq_toByteArray]
  unfold String.fromUTF8?
  constructor
  · intro h
    split_ifs at h
    cases h
    rfl
  · rintro rfl
    exact dif_pos s.isValidUTF8

/-- The bytes of one text come before those of another in lexicographic order. -/
def ByteLess (s t : String) : Prop := List.Lex (· < ·) (bytes s) (bytes t)

theorem bytes_eq (s : String) : bytes s = s.toList.flatMap String.utf8EncodeChar := by
  unfold bytes
  rw [String.toUTF8_eq_toByteArray, ← String.utf8Encode_toList, List.utf8Encode,
    List.data_toByteArray]

theorem continuation_lt_iff {m n : ℕ} :
    UInt8.ofNat (m % 64 + 0x80) < UInt8.ofNat (n % 64 + 0x80) ↔ m % 64 < n % 64 := by
  rw [UInt8.lt_iff_toNat_lt, UInt8.toNat_ofNat', UInt8.toNat_ofNat']
  omega

theorem continuation_inj {m n : ℕ} :
    UInt8.ofNat (m % 64 + 0x80) = UInt8.ofNat (n % 64 + 0x80) ↔ m % 64 = n % 64 := by
  rw [← UInt8.toNat_inj, UInt8.toNat_ofNat', UInt8.toNat_ofNat']
  omega

theorem lt_last_digit {m n : ℕ} (h : m < n) :
    m / 64 < n / 64 ∨ m / 64 = n / 64 ∧ m % 64 < n % 64 := by
  omega

/-- A smaller number has the smaller digit where the digits to the base 64 differ first. -/
theorem lt_digits {m n : ℕ} (h : m < n) :
    m / 262144 < n / 262144 ∨ m / 262144 = n / 262144 ∧
      (m / 4096 % 64 < n / 4096 % 64 ∨ m / 4096 % 64 = n / 4096 % 64 ∧
        (m / 64 % 64 < n / 64 % 64 ∨ m / 64 % 64 = n / 64 % 64 ∧ m % 64 < n % 64)) := by
  rcases lt_last_digit h with h1 | ⟨h1, h0⟩
  · rcases lt_last_digit h1 with h2 | ⟨h2, h1⟩
    · rcases lt_last_digit h2 with h3 | ⟨h3, h2⟩
      · omega
      · omega
    · omega
  · omega

theorem lex_utf8EncodeChar {c d : Char} (h : c < d) (x y : List UInt8) :
    List.Lex (· < ·) (String.utf8EncodeChar c ++ x) (String.utf8EncodeChar d ++ y) := by
  have hlt : c.val.toNat < d.val.toNat := h
  have hd : d.val.toNat < 0x110000 := by
    rcases d.valid with hd | ⟨-, hd⟩
    · exact hd.trans (by decide)
    · exact hd
  unfold String.utf8EncodeChar
  generalize c.val.toNat = m at *
  generalize d.val.toNat = n at *
  have hdigits := lt_digits hlt
  have hm : m / 262144 % 8 = m / 262144 := by omega
  have hn : n / 262144 % 8 = n / 262144 := by omega
  have hm' : (m / 262144 + 0xf0) % 2 ^ 8 = m / 262144 + 0xf0 := by omega
  have hn' : (n / 262144 + 0xf0) % 2 ^ 8 = n / 262144 + 0xf0 := by omega
  dsimp only
  -- one goal for each pair of lengths: the leading bytes show which encoding is the longer
  split_ifs <;>
    simp only [List.cons_append, List.nil_append, List.cons_lex_cons_iff, continuation_lt_iff,
      continuation_inj, hm, hn] <;>
    simp only [UInt8.lt_iff_toNat_lt, ← UInt8.toNat_inj, UInt8.toNat_ofNat', hm', hn'] <;>
    omega

theorem lex_flatMap_utf8EncodeChar {l l' : List Char} (h : List.Lex (· < ·) l l') :
    List.Lex (· < ·) (l.flatMap String.utf8EncodeChar) (l'.flatMap String.utf8EncodeChar) := by
  induction h with
  | nil =>
    rw [List.flatMap_nil, List.flatMap_cons]
    obtain ⟨b, rest, hb⟩ := List.exists_cons_of_ne_nil String.utf8EncodeChar_ne_nil
    rw [hb]
    exact .nil
  | cons _ ih =>
    rw [List.flatMap_cons, List.flatMap_cons]
    exact List.Lex.append_left _ ih _
  | rel hcd =>
    rw [List.flatMap_cons, List.flatMap_cons]
    exact lex_utf8EncodeChar hcd _ _

/-- The order of texts is the order of their bytes. -/
theorem byteLess_of_lt {s t : String} (h : s < t) : ByteLess s t := by
  unfold ByteLess
  rw [bytes_eq, bytes_eq]
  exact lex_flatMap_utf8EncodeChar h

end Rollcall.Text
