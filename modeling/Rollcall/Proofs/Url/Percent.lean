import Rollcall.Proofs.Text.ByteOrder
import Rollcall.Url.Percent

/-!
# Percent decoding

Decoding undoes encoding, whatever is encoded, as long as percent signs and hexadecimal digits are
left alone. It never makes a text longer, and it leaves exactly those texts as they are in which no
percent sign is followed by two hexadecimal digits.
-/

namespace Rollcall

namespace Text

def utf8 (cs : List Char) : List UInt8 := cs.flatMap String.utf8EncodeChar

@[simp] theorem utf8_nil : utf8 [] = [] := rfl

@[simp] theorem utf8_cons (c : Char) (cs : List Char) :
    utf8 (c :: cs) = String.utf8EncodeChar c ++ utf8 cs := rfl

@[simp] theorem utf8_append (cs ds : List Char) : utf8 (cs ++ ds) = utf8 cs ++ utf8 ds :=
  List.flatMap_append

theorem bytes_eq_utf8 (s : String) : bytes s = utf8 s.toList := bytes_eq s

theorem bytes_injective : Function.Injective bytes := by
  intro s t h
  unfold bytes at h
  rw [String.toUTF8_eq_toByteArray, String.toUTF8_eq_toByteArray] at h
  refine String.toByteArray_inj.mp (ByteArray.ext ?_)
  exact Array.toList_inj.mp h

theorem utf8_injective : Function.Injective utf8 := by
  intro cs ds h
  have hs : String.ofList cs = String.ofList ds := by
    apply bytes_injective
    rw [bytes_eq_utf8, bytes_eq_utf8, String.toList_ofList, String.toList_ofList, h]
  simpa using congrArg String.toList hs

theorem length_utf8EncodeChar_pos (c : Char) : 0 < (String.utf8EncodeChar c).length := by
  rw [String.length_utf8EncodeChar]
  exact c.utf8Size_pos

/-- A part of a text has no more bytes than the whole, and as many only if it is the whole. -/
theorem length_utf8_sublist {cs ds : List Char} (h : cs.Sublist ds) :
    (utf8 cs).length ≤ (utf8 ds).length ∧ ((utf8 ds).length ≤ (utf8 cs).length → cs = ds) := by
  induction h with
  | slnil => exact ⟨le_rfl, fun _ => rfl⟩
  | cons d _ ih =>
    have hpos := length_utf8EncodeChar_pos d
    simp only [utf8_cons, List.length_append]
    exact ⟨by omega, fun hle => by omega⟩
  | cons_cons c _ ih =>
    simp only [utf8_cons, List.length_append]
    exact ⟨by omega, fun hle => congrArg _ (ih.2 (by omega))⟩

theorem hexDigit?_upperHexDigit {n : ℕ} (h : n < 16) : hexDigit? (upperHexDigit n) = some n := by
  interval_cases n <;> decide

theorem hexDigit?_eq_none {c : Char} (h : c.toNat < '0'.toNat ∨ 'f'.toNat < c.toNat) :
    hexDigit? c = none := by
  have hzero : '0'.toNat = 48 := rfl
  have hf : 'f'.toNat = 102 := rfl
  simp only [Char.toNat] at h hzero hf
  simp only [hexDigit?, Char.le_def, UInt32.le_iff_toNat_le]
  split_ifs <;> simp_all <;> omega

end Text

namespace Url

open Text (utf8)

/-- The first two characters are hexadecimal digits. -/
def opensEscape : List Char → Bool
  | a :: b :: _ => (Text.hexDigit? a).isSome && (Text.hexDigit? b).isSome
  | _ => false

def hasEscape : List Char → Bool
  | [] => false
  | c :: rest => (c = '%' && opensEscape rest) || hasEscape rest

theorem percentDecode_escape {a b : Char} {x y : ℕ} (ha : Text.hexDigit? a = some x)
    (hb : Text.hexDigit? b = some y) (rest : List Char) :
    percentDecode ('%' :: a :: b :: rest) = UInt8.ofNat (x * 16 + y) :: percentDecode rest := by
  simp [percentDecode, ha, hb]

theorem percentDecode_cons {c : Char} {rest : List Char}
    (h : (c = '%' && opensEscape rest) = false) :
    percentDecode (c :: rest) = String.utf8EncodeChar c ++ percentDecode rest := by
  by_cases hc : c = '%'
  · subst hc
    match rest with
    | [] => simp [percentDecode]
    | [a] => simp [percentDecode]
    | a :: b :: more =>
      simp only [decide_true, Bool.true_and, opensEscape] at h
      rw [percentDecode]
      split
      · next hx hy => simp [hx, hy] at h
      · rfl
  · rw [percentDecode]
    exact fun _ _ _ h => absurd h hc

/-- A text is empty, or begins with an escape, or with a character that begins none. -/
@[elab_as_elim]
theorem escape_induction {motive : List Char → Prop} (nil : motive [])
    (cons : ∀ c rest, (c = '%' && opensEscape rest) = false → motive rest → motive (c :: rest))
    (escape : ∀ a b x y rest, Text.hexDigit? a = some x → Text.hexDigit? b = some y →
      motive rest → motive ('%' :: a :: b :: rest)) :
    ∀ cs, motive cs := by
  intro cs
  induction hn : cs.length using Nat.strong_induction_on generalizing cs with
  | _ n ih =>
    match cs with
    | [] => exact nil
    | c :: rest =>
      cases hopens : (c = '%' && opensEscape rest) with
      | false => exact cons c rest hopens (ih _ (hn ▸ Nat.lt_succ_self _) rest rfl)
      | true =>
        simp only [Bool.and_eq_true, decide_eq_true_eq] at hopens
        obtain ⟨rfl, hopens⟩ := hopens
        match rest with
        | [] | [a] => cases hopens
        | a :: b :: more =>
          simp only [opensEscape, Bool.and_eq_true, Option.isSome_iff_exists] at hopens
          obtain ⟨⟨x, hx⟩, y, hy⟩ := hopens
          refine escape a b x y more hx hy (ih _ ?_ more rfl)
          rw [← hn]
          simp only [List.length_cons]
          omega

/-- A text without escapes stands for its own bytes, and one with an escape for fewer bytes. -/
theorem length_percentDecode (cs : List Char) :
    (percentDecode cs).length ≤ (utf8 cs).length ∧
      (hasEscape cs = true → (percentDecode cs).length < (utf8 cs).length) := by
  induction cs using escape_induction with
  | nil => exact ⟨le_rfl, nofun⟩
  | cons c rest h ih =>
    rw [percentDecode_cons h, hasEscape, h, Bool.false_or]
    simp only [Text.utf8_cons, List.length_append]
    exact ⟨by omega, fun he => by have := ih.2 he; omega⟩
  | escape a b x y rest ha hb ih =>
    rw [percentDecode_escape ha hb]
    have hsign := Text.length_utf8EncodeChar_pos '%'
    have hpos := Text.length_utf8EncodeChar_pos a
    simp only [Text.utf8_cons, List.length_append, List.length_cons]
    exact ⟨by omega, fun _ => by omega⟩

theorem percentDecode_of_not_hasEscape {cs : List Char} (h : hasEscape cs = false) :
    percentDecode cs = utf8 cs := by
  induction cs with
  | nil => simp [percentDecode]
  | cons c rest ih =>
    rw [hasEscape, Bool.or_eq_false_iff] at h
    rw [percentDecode_cons h.1, ih h.2, Text.utf8_cons]

theorem opensEscape_append_slash (cs ds : List Char) :
    opensEscape (cs ++ '/' :: ds) = opensEscape cs := by
  match cs with
  | [] => cases ds <;> simp [opensEscape, show Text.hexDigit? '/' = none by decide]
  | [a] => simp [opensEscape, show Text.hexDigit? '/' = none by decide]
  | a :: b :: more => rfl

theorem percentDecode_append_slash (cs ds : List Char) :
    percentDecode (cs ++ '/' :: ds) = percentDecode cs ++ percentDecode ('/' :: ds) := by
  induction cs using escape_induction with
  | nil => simp [percentDecode]
  | cons c rest h ih =>
    rw [List.cons_append, percentDecode_cons (by rwa [opensEscape_append_slash]), ih,
      percentDecode_cons h, List.append_assoc]
  | escape a b x y rest ha hb ih =>
    rw [List.cons_append, List.cons_append, List.cons_append, percentDecode_escape ha hb, ih,
      percentDecode_escape ha hb, List.cons_append]

theorem hasEscape_append_slash (cs ds : List Char) :
    hasEscape (cs ++ '/' :: ds) = (hasEscape cs || hasEscape ds) := by
  induction cs with
  | nil => simp [hasEscape]
  | cons c rest ih =>
    rw [List.cons_append, hasEscape, hasEscape, opensEscape_append_slash, ih, Bool.or_assoc]

theorem percentDecode_encodeByte (b : UInt8) (rest : List Char) :
    percentDecode (encodeByte b ++ rest) = b :: percentDecode rest := by
  have hb : b.toNat < 256 := b.toNat_lt
  have heq : b.toNat / 16 * 16 + b.toNat % 16 = b.toNat := by omega
  rw [encodeByte, List.cons_append, List.cons_append, List.cons_append, List.nil_append,
    percentDecode_escape (Text.hexDigit?_upperHexDigit (by omega))
      (Text.hexDigit?_upperHexDigit (by omega)), heq, UInt8.ofNat_toNat]

theorem percentDecode_encodeBytes (bs : List UInt8) (rest : List Char) :
    percentDecode (bs.flatMap encodeByte ++ rest) = bs ++ percentDecode rest := by
  induction bs with
  | nil => rfl
  | cons b bs ih =>
    rw [List.flatMap_cons, List.append_assoc, percentDecode_encodeByte, ih, List.cons_append]

/-- What is encoded leaves escapes alone: neither percent signs nor hexadecimal digits. -/
structure SparesEscapes (isEncoded : Char → Bool) : Prop where
  sign : isEncoded '%' = false
  digits : ∀ c, isEncoded c = true → Text.hexDigit? c = none

variable {isEncoded : Char → Bool}

theorem encodeChar_of_isEncoded {c : Char} (h : isEncoded c = true) :
    ∃ more, encodeChar isEncoded c = '%' :: more := by
  rw [encodeChar, if_pos h]
  obtain ⟨b, bs, hbs⟩ := List.exists_cons_of_ne_nil
    (List.ne_nil_of_length_pos (Text.length_utf8EncodeChar_pos c))
  exact ⟨_, by rw [hbs, List.flatMap_cons]; rfl⟩

theorem encodeChar_of_not_isEncoded {c : Char} (h : isEncoded c = false) :
    encodeChar isEncoded c = [c] := by
  rw [encodeChar, h, if_neg Bool.false_ne_true]

theorem percentEncode_cons (c : Char) (rest : List Char) :
    percentEncode isEncoded (c :: rest) =
      encodeChar isEncoded c ++ percentEncode isEncoded rest := rfl

theorem opensEscape_percentEncode (h : SparesEscapes isEncoded) (cs : List Char) :
    opensEscape (percentEncode isEncoded cs) = opensEscape cs := by
  have hsign : Text.hexDigit? '%' = none := by decide
  match cs with
  | [] => rfl
  | a :: rest =>
    rw [percentEncode_cons]
    cases ha : isEncoded a with
    | true =>
      obtain ⟨more, hmore⟩ := encodeChar_of_isEncoded ha
      rw [hmore, List.cons_append]
      cases rest <;> cases more ++ percentEncode isEncoded _ <;>
        simp [opensEscape, hsign, h.digits a ha]
    | false =>
      rw [encodeChar_of_not_isEncoded ha]
      match rest with
      | [] => rfl
      | b :: rest =>
        rw [percentEncode_cons]
        cases hb : isEncoded b with
        | true =>
          obtain ⟨more, hmore⟩ := encodeChar_of_isEncoded hb
          rw [hmore]
          simp [opensEscape, hsign, h.digits b hb]
        | false =>
          rw [encodeChar_of_not_isEncoded hb]
          rfl

theorem percentDecode_percentEncode (h : SparesEscapes isEncoded) (cs : List Char) :
    percentDecode (percentEncode isEncoded cs) = percentDecode cs := by
  induction cs using escape_induction with
  | nil => rfl
  | cons c rest hc ih =>
    rw [percentEncode_cons, percentDecode_cons hc, ← ih]
    cases he : isEncoded c with
    | true => rw [encodeChar, if_pos he, percentDecode_encodeBytes]
    | false =>
      rw [encodeChar_of_not_isEncoded he, List.singleton_append, percentDecode_cons]
      rwa [opensEscape_percentEncode h]
  | escape a b x y rest ha hb ih =>
    have hkept : ∀ d z, Text.hexDigit? d = some z → encodeChar isEncoded d = [d] := by
      intro d z hd
      refine encodeChar_of_not_isEncoded (Bool.eq_false_iff.mpr fun he => ?_)
      rw [h.digits d he] at hd
      cases hd
    rw [percentEncode_cons, percentEncode_cons, percentEncode_cons,
      encodeChar_of_not_isEncoded h.sign, hkept a x ha, hkept b y hb]
    simp only [List.singleton_append]
    rw [percentDecode_escape ha hb, percentDecode_escape ha hb, ih]

theorem sparesEscapes_path : SparesEscapes isEncodedInPath where
  sign := by decide
  digits := by
    intro c hc
    simp only [isEncodedInPath, isEncodedInFragment, isAlwaysEncoded, Bool.or_eq_true,
      decide_eq_true_eq] at hc
    rcases hc with ((((((((((hlow | hhigh) | rfl) | rfl) | rfl) | rfl) | rfl) | rfl) | rfl) | rfl) |
      rfl)
    · exact Text.hexDigit?_eq_none (.inl (lt_trans hlow (by decide)))
    · exact Text.hexDigit?_eq_none (.inr (lt_trans (by decide) hhigh))
    all_goals decide

end Url

end Rollcall
