/-!
# Readings

A reading takes something from the front of a text and tells what is left, or fails.
-/
namespace Rollcall.Text

abbrev Reading (α : Type) : Type := Option (α × List Char)

namespace Reading

def mapValue {α β : Type} (f : α → β) (r : Reading α) : Reading β := r.map fun p => (f p.1, p.2)

end Reading

/-- What is left of a text after a character that must come first. -/
def expect (c : Char) : List Char → Option (List Char)
  | [] => none
  | d :: rest => if d = c then some rest else none

end Rollcall.Text
