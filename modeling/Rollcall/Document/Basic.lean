/-!
# Documents

A document is a tree of lists and tables with plain values at the leaves. Settings are read from
documents, and messages are exchanged as documents, whatever notation they are written in.
-/
namespace Rollcall

inductive Document where
  | null
  | bool (b : Bool)
  | int (n : Int)
  /-- A number that is written with a fraction or an exponent, as it is written. -/
  | real (literal : String)
  | text (s : String)
  /-- A date, a time of day, or both. -/
  | moment (literal : String)
  | list (items : List Document)
  | table (fields : List (String × Document))
  deriving Repr

namespace Document

instance : Inhabited Document := ⟨null⟩

/-- The first value under a name. -/
def field? : Document → String → Option Document
  | table fields, name => fields.lookup name
  | _, _ => none

def nat (n : Nat) : Document := int n

/-- A value that may be missing. -/
def ofOption {α : Type} (f : α → Document) : Option α → Document
  | none => null
  | some a => f a

def texts (l : List String) : Document := list (l.map text)

end Document

end Rollcall
