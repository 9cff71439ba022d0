/-!
# Finite tables

A table holds at most one value for each key. It is a list of entries in which the latest entry for
a key is the only one, and looking a key up is the view through which the operations are described.
-/
namespace Rollcall

structure Table (K V : Type) where
  entries : List (K × V) := []

namespace Table

variable {K V : Type}

def empty : Table K V := ⟨[]⟩

instance : Inhabited (Table K V) := ⟨empty⟩

variable [DecidableEq K]

def get? (t : Table K V) (k : K) : Option V := t.entries.lookup k

def contains (t : Table K V) (k : K) : Bool := (t.get? k).isSome

def filter (t : Table K V) (p : K → V → Bool) : Table K V :=
  ⟨t.entries.filter fun e => p e.1 e.2⟩

def erase (t : Table K V) (k : K) : Table K V := t.filter fun k' _ => k' ≠ k

def put (t : Table K V) (k : K) (v : V) : Table K V := ⟨(k, v) :: (t.erase k).entries⟩

def size (t : Table K V) : Nat := t.entries.length

def values (t : Table K V) : List V := t.entries.map (·.2)

/-- No key has two entries. -/
def Unique (t : Table K V) : Prop := (t.entries.map (·.1)).Nodup

@[simp] theorem get?_empty (k : K) : (empty : Table K V).get? k = none := rfl

theorem lookup_filter_ne (l : List (K × V)) {k k' : K} (h : k' ≠ k) :
    (l.filter fun e => e.1 ≠ k).lookup k' = l.lookup k' := by
  induction l with
  | nil => rfl
  | cons e l ih =>
    obtain ⟨a, v⟩ := e
    by_cases ha : a = k
    · subst ha
      have : (k' == a) = false := by simpa using h
      simpa [List.lookup_cons, this] using ih
    · by_cases hk : k' = a
      · subst hk; simp [ha]
      · have : (k' == a) = false := by simpa using hk
        simpa [List.filter_cons, ha, List.lookup_cons, this] using ih

theorem lookup_filter_self (l : List (K × V)) (k : K) :
    (l.filter fun e => e.1 ≠ k).lookup k = none := by
  induction l with
  | nil => rfl
  | cons e l ih =>
    obtain ⟨a, v⟩ := e
    by_cases ha : a = k
    · simpa [List.filter_cons, ha] using ih
    · have : (k == a) = false := by simpa using fun h => ha h.symm
      simpa [List.filter_cons, ha, List.lookup_cons, this] using ih

theorem get?_erase (t : Table K V) (k k' : K) :
    (t.erase k).get? k' = if k' = k then none else t.get? k' := by
  by_cases h : k' = k
  · subst h; simpa [erase, filter, get?] using lookup_filter_self t.entries k'
  · simpa [erase, filter, get?, h] using lookup_filter_ne t.entries h

theorem get?_put (t : Table K V) (k k' : K) (v : V) :
    (t.put k v).get? k' = if k' = k then some v else t.get? k' := by
  by_cases h : k' = k
  · subst h; simp [put, get?]
  · have hk : (k' == k) = false := by simpa using h
    have he := get?_erase t k k'
    simp only [h, if_false] at he ⊢
    simpa [put, get?, List.lookup_cons, hk] using he

end Table

end Rollcall
