import Rollcall.Toml.Value

/-!
# Reading TOML

A document is a sequence of lines: headers that open a table, fields of the table opened last, and
lines with nothing but blanks and comments.
-/
namespace Rollcall.Toml

open Text (Reading)

/-- A header, its opening bracket being behind: the path, and whether it opens a series. -/
def readHeader (cs : List Char) : Option ((List String × Bool) × List Char) :=
  match cs with
  | '[' :: rest =>
    match readKey maxDepth rest with
    | some (key, ']' :: ']' :: rest) => some ((key, true), rest)
    | _ => none
  | _ =>
    match readKey maxDepth cs with
    | some (key, ']' :: rest) => some ((key, false), rest)
    | _ => none

/-- What has been read so far: all tables, and the path of the one opened last. -/
structure Progress where
  fields : Fields := []
  header : List String := []

def readLines : (fuel : Nat) → Progress → List Char → Option Fields
  | 0, _, _ => none
  | fuel + 1, p, cs =>
    match skipLines (cs.length + 1) cs with
    | none => none
    | some [] => some p.fields
    | some ('[' :: rest) =>
      match readHeader rest with
      | none => none
      | some ((key, isSeries), rest) =>
        let path := key.dropLast
        let last := key.getLast?.getD ""
        match if isSeries then p.fields.openSeries path last else p.fields.openTable path last with
        | none => none
        | some fields =>
          match endLine rest with
          | some rest => readLines fuel { fields, header := key } rest
          | none => none
    | some cs =>
      match readKey maxDepth cs with
      | some (key, '=' :: rest) =>
        match readValue (2 * rest.length + 2) maxDepth (skipSpace rest) with
        | none => none
        | some (d, rest) =>
          match p.fields.addLeafIn p.header key.dropLast (key.getLast?.getD "") d with
          | none => none
          | some fields =>
            match endLine rest with
            | some rest => readLines fuel { p with fields } rest
            | none => none
      | _ => none

/-- Read a whole text. A mark of byte order at its start is passed over. -/
def read (s : String) : Option Document :=
  let cs := match s.toList with
    | '\uFEFF' :: rest => rest
    | cs => cs
  (readLines (cs.length + 1) {} cs).map fun fields => .table (documentFields fields)

end Rollcall.Toml
