import Rollcall.Document.Basic
import Rollcall.Error

/-!
# Outcomes as documents

An error becomes a table with its kind, its message, and the messages of its causes if it has any; a
value becomes a table with one field. The fields stand in the order of their names.
-/
namespace Rollcall

def Error.toDocument (e : Error) : Document :=
  .table <| [("error", .text e.kind.name), ("message", .text e.message)] ++
    match e.causes with
    | [] => []
    | causes => [("source", .texts causes)]

namespace Document

def success (d : Document) : Document := .table [("ok", d)]

def outcome {α : Type} (f : α → Document) : Except Error α → Document
  | .ok a => success (f a)
  | .error e => e.toDocument

def unitOutcome (r : Except Error Unit) : Document := outcome (fun _ => .null) r

end Document

end Rollcall
