import Mathlib.Tactic
import Rollcall.Text.Numeral

/-!
# Which texts are numerals

A numeral is one or more digits, with or without a plus sign in front, that amount to no more than
the bound. Any other text goes wrong somewhere, and it is the first place at which it does that
tells the fault: a character that is no digit, or the digit that carries the value past the bound.
-/

namespace Rollcall.Text

theorem NumeralFault.message_injective {fault fault' : NumeralFault}
    (h : fault.message = fault'.message) : fault = fault' := by
  cases fault <;> cases fault' <;> simp_all [NumeralFault.message]

namespace Numeral

/-- The text is one or more digits that amount to `n`, perhaps with a plus sign in front. -/
def Denotes (cs : List Char) (n : ℕ) : Prop :=
  ∃ digits, (cs = digits ∨ cs = '+' :: digits) ∧ digits ≠ [] ∧
    (∀ c ∈ digits, c.isDigit = true) ∧ n = Nat.ofDigitChars 10 digits 0

/-- Digits that still amount to no more than the bound, `value` being what those before them do, are
followed by something that goes wrong. -/
inductive Breaks (bound value : ℕ) : List Char → NumeralFault → Prop
  | noDigit {good : List Char} {c : Char} {rest : List Char}
      (hgood : ∀ d ∈ good, d.isDigit = true) (hle : Nat.ofDigitChars 10 good value ≤ bound)
      (hc : c.isDigit = false) : Breaks bound value (good ++ c :: rest) .invalidDigit
  | pastBound {good : List Char} {c : Char} {rest : List Char}
      (hgood : ∀ d ∈ good, d.isDigit = true) (hle : Nat.ofDigitChars 10 good value ≤ bound)
      (hc : c.isDigit = true) (hlt : bound < Nat.ofDigitChars 10 (good ++ [c]) value) :
      Breaks bound value (good ++ c :: rest) .tooLarge

/-- How a text goes wrong that is no numeral of the bound. -/
inductive Offends (bound : ℕ) : List Char → NumeralFault → Prop
  | nothing : Offends bound [] .empty
  | signAlone : Offends bound ['+'] .invalidDigit
  | plain {cs : List Char} {fault : NumeralFault} (hsign : cs.head? ≠ some '+')
      (h : Breaks bound 0 cs fault) : Offends bound cs fault
  | signed {cs : List Char} {fault : NumeralFault} (h : Breaks bound 0 cs fault) :
      Offends bound ('+' :: cs) fault

variable {bound value n : ℕ} {cs : List Char} {c : Char} {fault : NumeralFault}

theorem digit?_of_isDigit (h : c.isDigit = true) :
    digit? c = some (c.toNat - '0'.toNat) := by
  have hrange : '0' ≤ c ∧ c ≤ '9' := by
    simpa [Char.isDigit, Char.le_def] using h
  exact if_pos hrange

theorem le_ofDigitChars (cs : List Char) (value : ℕ) : value ≤ Nat.ofDigitChars 10 cs value := by
  induction cs generalizing value with
  | nil => exact le_rfl
  | cons c cs ih =>
    rw [Nat.ofDigitChars_cons]
    exact le_trans (by omega) (ih _)

theorem readDigits_of_fits (hc : c.isDigit = true)
    (hle : 10 * value + (c.toNat - '0'.toNat) ≤ bound) (cs : List Char) :
    readDigits bound value (c :: cs) =
      readDigits bound (10 * value + (c.toNat - '0'.toNat)) cs := by
  rw [readDigits, digit?_of_isDigit hc]
  dsimp only
  rw [Nat.mul_comm value, if_pos hle]

theorem readDigits_of_past (hc : c.isDigit = true)
    (hlt : bound < 10 * value + (c.toNat - '0'.toNat)) (cs : List Char) :
    readDigits bound value (c :: cs) = .error .tooLarge := by
  rw [readDigits, digit?_of_isDigit hc]
  dsimp only
  rw [Nat.mul_comm value, if_neg (not_le.mpr hlt)]

theorem readDigits_of_noDigit (hc : c.isDigit = false) (cs : List Char) :
    readDigits bound value (c :: cs) = .error .invalidDigit := by
  have hnone : digit? c = none := by
    refine if_neg fun hrange => ?_
    have hdigit : c.isDigit = true := by
      simpa [Char.isDigit, Char.le_def] using hrange
    rw [hc] at hdigit
    cases hdigit
  rw [readDigits, hnone]

theorem readDigits_eq (hdigits : ∀ c ∈ cs, c.isDigit = true)
    (hle : Nat.ofDigitChars 10 cs value ≤ bound) :
    readDigits bound value cs = .ok (Nat.ofDigitChars 10 cs value) := by
  induction cs generalizing value with
  | nil => rfl
  | cons c cs ih =>
    rw [Nat.ofDigitChars_cons] at hle ⊢
    have hfits := (le_ofDigitChars cs _).trans hle
    rw [readDigits_of_fits (hdigits c List.mem_cons_self) hfits]
    exact ih (fun d hd => hdigits d (List.mem_cons_of_mem _ hd)) hle

theorem le_of_readDigits (hvalue : value ≤ bound) (h : readDigits bound value cs = .ok n) :
    n ≤ bound := by
  induction cs generalizing value with
  | nil => cases h; exact hvalue
  | cons c cs ih =>
    unfold readDigits at h
    split at h
    · cases h
    · split_ifs at h with hfits
      exact ih hfits h

theorem readDigits_eq_ok_iff (hvalue : value ≤ bound) : readDigits bound value cs = .ok n ↔
    (∀ c ∈ cs, c.isDigit = true) ∧ n = Nat.ofDigitChars 10 cs value ∧ n ≤ bound := by
  refine ⟨fun h => ?_, fun ⟨hdigits, hn, hle⟩ => hn ▸ readDigits_eq hdigits (hn ▸ hle)⟩
  have hle := le_of_readDigits hvalue h
  induction cs generalizing value with
  | nil =>
    cases h
    exact ⟨nofun, rfl, hle⟩
  | cons c cs ih =>
    cases hc : c.isDigit with
    | false =>
      rw [readDigits_of_noDigit hc] at h
      cases h
    | true =>
      rcases Nat.lt_or_ge bound (10 * value + (c.toNat - '0'.toNat)) with hpast | hfits
      · rw [readDigits_of_past hc hpast] at h
        cases h
      · rw [readDigits_of_fits hc hfits] at h
        obtain ⟨hdigits, hn, -⟩ := ih hfits h
        rw [Nat.ofDigitChars_cons]
        exact ⟨List.forall_mem_cons.mpr ⟨hc, hdigits⟩, hn, hle⟩

theorem not_breaks_nil : ¬ Breaks bound value [] fault := by
  intro h
  generalize hcs : ([] : List Char) = cs at h
  cases h <;> simp at hcs

theorem breaks_cons_iff (hvalue : value ≤ bound) : Breaks bound value (c :: cs) fault ↔
    c.isDigit = false ∧ fault = .invalidDigit ∨
    c.isDigit = true ∧ bound < 10 * value + (c.toNat - '0'.toNat) ∧ fault = .tooLarge ∨
    c.isDigit = true ∧ 10 * value + (c.toNat - '0'.toNat) ≤ bound ∧
      Breaks bound (10 * value + (c.toNat - '0'.toNat)) cs fault := by
  constructor
  · intro h
    generalize hl : c :: cs = l at h
    cases h with
    | @noDigit good d rest hgood hle hd =>
      cases good with
      | nil =>
        cases hl
        exact .inl ⟨hd, rfl⟩
      | cons e good =>
        cases hl
        rw [List.forall_mem_cons] at hgood
        rw [Nat.ofDigitChars_cons] at hle
        exact .inr (.inr ⟨hgood.1, (le_ofDigitChars good _).trans hle, .noDigit hgood.2 hle hd⟩)
    | @pastBound good d rest hgood hle hd hlt =>
      cases good with
      | nil =>
        cases hl
        rw [List.nil_append, Nat.ofDigitChars_cons, Nat.ofDigitChars_nil] at hlt
        exact .inr (.inl ⟨hd, hlt, rfl⟩)
      | cons e good =>
        cases hl
        rw [List.forall_mem_cons] at hgood
        rw [List.cons_append, Nat.ofDigitChars_cons] at hlt
        rw [Nat.ofDigitChars_cons] at hle
        exact .inr (.inr
          ⟨hgood.1, (le_ofDigitChars good _).trans hle, .pastBound hgood.2 hle hd hlt⟩)
  · rintro (⟨hc, rfl⟩ | ⟨hc, hlt, rfl⟩ | ⟨hc, hle, h⟩)
    · exact @Breaks.noDigit bound value [] c cs nofun hvalue hc
    · refine @Breaks.pastBound bound value [] c cs nofun hvalue hc ?_
      rwa [List.nil_append, Nat.ofDigitChars_cons, Nat.ofDigitChars_nil]
    · cases h with
      | @noDigit good d rest hgood hle hd =>
        refine @Breaks.noDigit bound value (c :: good) d rest
          (List.forall_mem_cons.mpr ⟨hc, hgood⟩) ?_ hd
        rwa [Nat.ofDigitChars_cons]
      | @pastBound good d rest hgood hle hd hlt =>
        refine @Breaks.pastBound bound value (c :: good) d rest
          (List.forall_mem_cons.mpr ⟨hc, hgood⟩) ?_ hd ?_
        · rwa [Nat.ofDigitChars_cons]
        · rwa [List.cons_append, Nat.ofDigitChars_cons]

theorem readDigits_eq_error_iff (hvalue : value ≤ bound) :
    readDigits bound value cs = .error fault ↔ Breaks bound value cs fault := by
  induction cs generalizing value with
  | nil => exact ⟨nofun, fun h => absurd h not_breaks_nil⟩
  | cons c cs ih =>
    rw [breaks_cons_iff hvalue]
    cases hc : c.isDigit with
    | false =>
      rw [readDigits_of_noDigit hc]
      simp [eq_comm]
    | true =>
      rcases Nat.lt_or_ge bound (10 * value + (c.toNat - '0'.toNat)) with hpast | hfits
      · rw [readDigits_of_past hc hpast]
        simp only [reduceCtorEq, Except.error.injEq, false_and, true_and, false_or,
          not_le.mpr hpast, or_false, hpast, eq_comm]
      · rw [readDigits_of_fits hc hfits, ih hfits]
        simp only [reduceCtorEq, false_and, true_and, false_or, not_lt.mpr hfits, hfits]

theorem readChars_signed (hne : cs ≠ []) : readChars bound ('+' :: cs) = readDigits bound 0 cs := by
  unfold readChars
  split <;> simp_all

theorem readChars_plain (hne : cs ≠ []) (hsign : cs.head? ≠ some '+') :
    readChars bound cs = readDigits bound 0 cs := by
  unfold readChars
  split <;> simp_all

theorem head?_of_digits (hdigits : ∀ c ∈ cs, c.isDigit = true) : cs.head? ≠ some '+' := by
  intro h
  exact absurd (hdigits '+' (List.mem_of_mem_head? h)) (by decide)

theorem sign_cases (cs : List Char) : cs = [] ∨ cs = ['+'] ∨
    (∃ rest, rest ≠ [] ∧ cs = '+' :: rest) ∨ cs ≠ [] ∧ cs.head? ≠ some '+' := by
  rcases cs with _ | ⟨c, rest⟩
  · exact .inl rfl
  by_cases hc : c = '+'
  · subst hc
    rcases rest with _ | ⟨d, rest⟩
    · exact .inr (.inl rfl)
    · exact .inr (.inr (.inl ⟨_, List.cons_ne_nil d rest, rfl⟩))
  · exact .inr (.inr (.inr ⟨List.cons_ne_nil c rest, by simpa using hc⟩))

/-- The texts that are read as a number are those that denote it, if it is within the bound. -/
theorem readChars_eq_ok_iff : readChars bound cs = .ok n ↔ Denotes cs n ∧ n ≤ bound := by
  constructor
  · intro h
    rcases sign_cases cs with rfl | rfl | ⟨rest, hne, rfl⟩ | ⟨hne, hsign⟩
    · cases h
    · cases h
    · rw [readChars_signed hne] at h
      obtain ⟨hdigits, hn, hle⟩ := (readDigits_eq_ok_iff (Nat.zero_le bound)).mp h
      exact ⟨⟨rest, .inr rfl, hne, hdigits, hn⟩, hle⟩
    · rw [readChars_plain hne hsign] at h
      obtain ⟨hdigits, hn, hle⟩ := (readDigits_eq_ok_iff (Nat.zero_le bound)).mp h
      exact ⟨⟨cs, .inl rfl, hne, hdigits, hn⟩, hle⟩
  · rintro ⟨⟨digits, rfl | rfl, hne, hdigits, hn⟩, hle⟩
    · rw [readChars_plain hne (head?_of_digits hdigits)]
      exact (readDigits_eq_ok_iff (Nat.zero_le bound)).mpr ⟨hdigits, hn, hle⟩
    · rw [readChars_signed hne]
      exact (readDigits_eq_ok_iff (Nat.zero_le bound)).mpr ⟨hdigits, hn, hle⟩

theorem Breaks.ne_nil (h : Breaks bound value cs fault) : cs ≠ [] := by
  rintro rfl
  exact not_breaks_nil h

/-- Any other text is refused for the first place at which it goes wrong. -/
theorem readChars_eq_error_iff : readChars bound cs = .error fault ↔ Offends bound cs fault := by
  constructor
  · intro h
    rcases sign_cases cs with rfl | rfl | ⟨rest, hne, rfl⟩ | ⟨hne, hsign⟩
    · cases h
      exact .nothing
    · cases h
      exact .signAlone
    · rw [readChars_signed hne, readDigits_eq_error_iff (Nat.zero_le bound)] at h
      exact .signed h
    · rw [readChars_plain hne hsign, readDigits_eq_error_iff (Nat.zero_le bound)] at h
      exact .plain hsign h
  · rintro (_ | _ | ⟨hsign, h⟩ | h)
    · rfl
    · rfl
    · rw [readChars_plain h.ne_nil hsign]
      exact (readDigits_eq_error_iff (Nat.zero_le bound)).mpr h
    · rw [readChars_signed h.ne_nil]
      exact (readDigits_eq_error_iff (Nat.zero_le bound)).mpr h

theorem denotes_toString (n : ℕ) : Denotes (toString n).toList n := by
  rw [Nat.toString_eq_ofList_toDigits, String.toList_ofList]
  refine ⟨_, .inl rfl, Nat.toDigits_ne_nil, fun c hc => ?_, ?_⟩
  · exact Nat.isDigit_of_mem_toDigits (by decide) (by decide) hc
  · exact (Nat.ofDigitChars_toDigits (by decide) (by decide)).symm

theorem readChars_toString (hn : n ≤ bound) : readChars bound (toString n).toList = .ok n :=
  readChars_eq_ok_iff.mpr ⟨denotes_toString n, hn⟩

end Numeral

end Rollcall.Text
