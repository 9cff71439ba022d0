import Mathlib.Tactic
import Rollcall.Config.Environment

/-!
# Lists of names in a text

A list of names is written in one row, with commas between the names. Whoever reads such a row trims
its parts and passes over those with nothing in them, so a row lists just the names that were
written if none of them is empty, padded or has a comma.
-/

namespace Rollcall

namespace Text

def Unpadded (s : String) : Prop :=
  ∀ c, s.toList.head? = some c ∨ s.toList.getLast? = some c → isBlank c = false

variable {s : String}

theorem dropWhile_eq_self_of_head? {p : Char → Bool} {cs : List Char}
    (h : ∀ c, cs.head? = some c → p c = false) : cs.dropWhile p = cs := by
  cases cs with
  | nil => rfl
  | cons c cs =>
    apply List.dropWhile_cons_of_neg
    simp [h c rfl]

theorem trim_of_unpadded (h : Unpadded s) : trim s = s := by
  have hhead : s.toList.dropWhile isBlank = s.toList :=
    dropWhile_eq_self_of_head? fun c hc => h c (.inl hc)
  have hlast : s.toList.reverse.dropWhile isBlank = s.toList.reverse := by
    apply dropWhile_eq_self_of_head?
    intro c hc
    rw [List.head?_reverse] at hc
    exact h c (.inr hc)
  unfold trim trimChars
  rw [hhead, hlast, List.reverse_reverse, String.ofList_toList]

end Text

/-- The names are what is left of the parts of the text between its commas, once they are trimmed
and the empty ones are gone. -/
def ListsNames (s : String) (names : List String) : Prop :=
  ∃ parts : List String, parts ≠ [] ∧ (∀ part ∈ parts, ',' ∉ part.toList) ∧
    s = ",".intercalate parts ∧ names = (parts.map Text.trim).filter (· ≠ "")

variable {parts names : List String} {s : String}

theorem toList_intercalate_comma (parts : List String) :
    (",".intercalate parts).toList = [','].intercalate (parts.map String.toList) := by
  simp [String.toList_intercalate]

theorem commaSeparated_intercalate (hne : parts ≠ [])
    (hplain : ∀ part ∈ parts, ',' ∉ part.toList) :
    commaSeparated (",".intercalate parts) = (parts.map Text.trim).filter (· ≠ "") := by
  have hsplit : (",".intercalate parts).toList.splitOn ',' = parts.map String.toList := by
    rw [toList_intercalate_comma]
    apply List.splitOn_intercalate
    · simpa using hplain
    · simpa using hne
  unfold commaSeparated
  rw [hsplit, List.map_map]
  simp [Function.comp_def]

theorem notMem_of_mem_splitOn {c : Char} {cs part : List Char} (h : part ∈ cs.splitOn c) :
    c ∉ part := by
  induction cs generalizing part with
  | nil =>
    rw [List.splitOn_nil, List.mem_singleton] at h
    simp [h]
  | cons d cs ih =>
    rw [List.splitOn_cons_eq_if_modifyHead] at h
    split_ifs at h with hd
    · rcases List.mem_cons.mp h with rfl | h
      · simp
      · exact ih h
    · cases hsplit : cs.splitOn c with
      | nil => exact absurd hsplit (List.splitOn_ne_nil c cs)
      | cons head rest =>
        rw [hsplit] at h ih
        rcases List.mem_cons.mp h with rfl | h
        · have hhead : c ∉ head := ih List.mem_cons_self
          have hne : c ≠ d := fun heq => hd (beq_iff_eq.mpr heq.symm)
          simp [hne, hhead]
        · exact ih (List.mem_cons_of_mem head h)

theorem listsNames_iff : ListsNames s names ↔ commaSeparated s = names := by
  constructor
  · rintro ⟨parts, hne, hplain, rfl, rfl⟩
    exact commaSeparated_intercalate hne hplain
  · rintro rfl
    refine ⟨(s.toList.splitOn ',').map String.ofList, ?_, ?_, ?_, ?_⟩
    · simp
    · intro part hpart
      obtain ⟨cs, hcs, rfl⟩ := List.mem_map.mp hpart
      rw [String.toList_ofList]
      exact notMem_of_mem_splitOn hcs
    · rw [← String.toList_inj, toList_intercalate_comma, List.map_map]
      simp [Function.comp_def, List.intercalate_splitOn]
    · simp [commaSeparated, Function.comp_def]

/-- Names that are neither empty nor padded and have no comma are read back from their row. -/
theorem commaSeparated_row
    (h : ∀ name ∈ names, name ≠ "" ∧ ',' ∉ name.toList ∧ Text.Unpadded name) :
    commaSeparated (",".intercalate names) = names := by
  rcases eq_or_ne names [] with rfl | hne
  -- the row of no names is empty, and its only part is passed over
  · decide
  · rw [commaSeparated_intercalate hne fun part hpart => (h part hpart).2.1]
    have htrim : names.map Text.trim = names.map id :=
      List.map_congr_left fun part hpart => Text.trim_of_unpadded (h part hpart).2.2
    rw [htrim, List.map_id, List.filter_eq_self]
    intro part hpart
    simp [(h part hpart).1]

end Rollcall
