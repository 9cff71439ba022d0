import Rollcall.Toml.Moment
import Rollcall.Toml.Number
import Rollcall.Toml.Tables
import Rollcall.Toml.Text

/-!
# Values in TOML

A list may go over several lines and may have a comma at its end; a table written as a value stays
on its line and has none.
-/
namespace Rollcall.Toml

open Text (Reading)

def readWord (word : String) (value : Document) (cs : List Char) : Reading Document :=
  if word.toList.isPrefixOf cs then some (value, cs.drop word.length) else none

def readScalar (cs : List Char) : Reading Document :=
  match readMoment cs with
  | some (m, rest) => some (.moment m, rest)
  | none => readNumber cs

mutual

/-- A value, `depth` being how many more levels it may have. Every step consumes a character. -/
def readValue : (fuel depth : Nat) → List Char → Reading Document
  | 0, _, _ => none
  | fuel + 1, depth, cs =>
    match cs with
    | [] => none
    | c :: rest =>
      if c = '"' ∨ c = '\'' then (readText (c :: rest)).map fun r => (.text r.1, r.2)
      else if c = '[' then
        match depth with
        | 0 => none
        | depth + 1 => (readItems fuel depth [] rest).map fun r => (.list r.1, r.2)
      else if c = '\x7b' then
        match depth with
        | 0 => none
        | depth + 1 =>
          match skipSpace rest with
          | '\x7d' :: rest => some (.table [], rest)
          | rest => (readFields fuel depth [] rest).map fun r => (.table (documentFields r.1), r.2)
      else if c = 't' then readWord "true" (.bool true) (c :: rest)
      else if c = 'f' then readWord "false" (.bool false) (c :: rest)
      else readScalar (c :: rest)

/-- The items of a list that are still to come, those before them in reverse, and the closing
bracket. -/
def readItems : (fuel depth : Nat) → (before : List Document) → List Char →
    Reading (List Document)
  | 0, _, _, _ => none
  | fuel + 1, depth, before, cs =>
    match skipLines (cs.length + 1) cs with
    | none => none
    | some (']' :: rest) => some (before.reverse, rest)
    | some cs =>
      match readValue fuel depth cs with
      | none => none
      | some (d, rest) =>
        match skipLines (rest.length + 1) rest with
        | some (',' :: rest) => readItems fuel depth (d :: before) rest
        | some (']' :: rest) => some ((d :: before).reverse, rest)
        | _ => none

def readFields : (fuel depth : Nat) → (before : Fields) → List Char → Reading Fields
  | 0, _, _, _ => none
  | fuel + 1, depth, before, cs =>
    match readKey maxDepth cs with
    | some (key, '=' :: rest) =>
      match readValue fuel depth (skipSpace rest) with
      | none => none
      | some (d, rest) =>
        match before.addLeaf key.dropLast (key.getLast?.getD "") d with
        | none => none
        | some fields =>
          match skipSpace rest with
          | ',' :: rest => readFields fuel depth fields rest
          | '\x7d' :: rest => some (fields, rest)
          | _ => none
    | _ => none

end

end Rollcall.Toml
