/-!
# Sets of texts in order

A set of texts is the list of its members in ascending order of code points, each once.
-/
namespace Rollcall.SortedSet

def insert (s : String) : List String → List String
  | [] => [s]
  | t :: rest => if s < t then s :: t :: rest else if s = t then t :: rest else t :: insert s rest

def ofList : List String → List String
  | [] => []
  | s :: rest => insert s (ofList rest)

@[simp] theorem mem_insert {s t : String} {l : List String} :
    t ∈ insert s l ↔ t = s ∨ t ∈ l := by
  induction l with
  | nil => simp [insert]
  | cons a l ih =>
    unfold insert
    split
    · simp
    · split
      · next h => subst h; simp
      · simp only [List.mem_cons, ih]
        constructor
        · rintro (h | h | h) <;> simp [h]
        · rintro (h | h | h) <;> simp [h]

@[simp] theorem mem_ofList {t : String} {l : List String} : t ∈ ofList l ↔ t ∈ l := by
  induction l with
  | nil => simp [ofList]
  | cons a l ih => simp [ofList, ih]

theorem ofList_eq_nil_iff {l : List String} : ofList l = [] ↔ l = [] := by
  cases l with
  | nil => simp [ofList]
  | cons a l =>
    refine ⟨fun h => ?_, fun h => by simp at h⟩
    have : a ∈ ofList (a :: l) := mem_ofList.2 (by simp)
    simp [h] at this

end Rollcall.SortedSet
