import Rollcall.Document.Basic

/-!
# Building tables from lines

A table is built up by lines that may come in any order, so an entry remembers how it came about. A
table that was only mentioned on the way to another may still be given its own header; one whose
name is a part of a dotted key may be extended by further dotted keys; all others are closed. A
series of tables is extended at its end.
-/
namespace Rollcall.Toml

inductive Entry where
  | leaf (value : Document)
  /-- A table: is it only mentioned so far, and is it the work of dotted keys? -/
  | table (mentioned dotted : Bool) (fields : List (String × Entry))
  | series (tables : List (List (String × Entry)))

abbrev Fields : Type := List (String × Entry)

namespace Fields

/-- Set a field, in its place if it exists. -/
def set (fields : Fields) (k : String) (e : Entry) : Fields :=
  match fields with
  | [] => [(k, e)]
  | (k', e') :: rest => if k' = k then (k, e) :: rest else (k', e') :: set rest k e

/-- Change the table at the end of a path, creating the tables on the way that do not exist. The
change is told whether its table is the work of dotted keys. -/
def within (dotted : Bool) (change : (isDotted : Bool) → Fields → Option Fields) :
    (path : List String) → (isDotted : Bool) → Fields → Option Fields
  | [], isDotted, fields => change isDotted fields
  | k :: path, _, fields =>
    match fields.lookup k with
    | none =>
      (within dotted change path dotted []).map fun inner =>
        fields.set k (.table true dotted inner)
    | some (.leaf _) => none
    | some (.series tables) =>
      match tables.getLast? with
      | none => none
      | some last =>
        (within dotted change path false last).map fun inner =>
          fields.set k (.series (tables.dropLast ++ [inner]))
    | some (.table mentioned isDotted inner) =>
      if dotted ∧ ¬ mentioned then none
      else
        (within dotted change path isDotted inner).map fun inner =>
          fields.set k (.table mentioned isDotted inner)

def addLeaf (path : List String) (k : String) (value : Document) (fields : Fields) :
    Option Fields :=
  within true (fun isDotted fields =>
    if path ≠ [] ∧ ¬ isDotted then none
    else
      match fields.lookup k with
      | none => some (fields.set k (.leaf value))
      | some _ => none) path false fields

def openTable (path : List String) (k : String) (fields : Fields) : Option Fields :=
  within false (fun _ fields =>
    match fields.lookup k with
    | none => some (fields.set k (.table false false []))
    | some (.table true false inner) => some (fields.set k (.table false false inner))
    | some _ => none) path false fields

def openSeries (path : List String) (k : String) (fields : Fields) : Option Fields :=
  within false (fun _ fields =>
    match fields.lookup k with
    | none => some (fields.set k (.series [[]]))
    | some (.series tables) => some (fields.set k (.series (tables ++ [[]])))
    | some _ => none) path false fields

def addLeafIn (header : List String) (path : List String) (k : String) (value : Document)
    (fields : Fields) : Option Fields :=
  within false (fun _ fields => fields.addLeaf path k value) header false fields

end Fields

mutual

def Entry.toDocument : Entry → Document
  | .leaf d => d
  | .table _ _ fields => .table (documentFields fields)
  | .series tables => .list (seriesItems tables)

def documentFields : List (String × Entry) → List (String × Document)
  | [] => []
  | (k, e) :: rest => (k, e.toDocument) :: documentFields rest

def seriesItems : List (List (String × Entry)) → List Document
  | [] => []
  | t :: rest => .table (documentFields t) :: seriesItems rest

end

end Rollcall.Toml
