import Rollcall.Text.Reading

/-!
# Blanks, comments and line ends in TOML

A line ends with a line feed, which a carriage return may precede; a carriage return alone is no
part of the notation. Comments hold any characters but controls other than the tab.
-/
namespace Rollcall.Toml

open Text (Reading)

def isSpace (c : Char) : Bool := c = ' ' || c = '\t'

def skipSpace (cs : List Char) : List Char := cs.dropWhile isSpace

/-- A control character other than the tab. -/
def isControl (c : Char) : Bool := (c.toNat < 0x20 && c != '\t') || c.toNat = 0x7F

def newline? : List Char → Option (List Char)
  | '\n' :: rest => some rest
  | '\r' :: '\n' :: rest => some rest
  | _ => none

def skipComment : List Char → List Char
  | '#' :: rest => rest.dropWhile fun c => !isControl c
  | cs => cs

/-- The rest of a line that has nothing more to say, and what comes after it. -/
def endLine (cs : List Char) : Option (List Char) :=
  match skipComment (skipSpace cs) with
  | [] => some []
  | rest => newline? rest

def skipLines : (fuel : Nat) → List Char → Option (List Char)
  | 0, _ => none
  | fuel + 1, cs =>
    match skipSpace cs with
    | '#' :: rest =>
      match skipComment ('#' :: rest) with
      | [] => some []
      | rest =>
        match newline? rest with
        | some rest => skipLines fuel rest
        | none => none
    | rest =>
      match newline? rest with
      | some rest => skipLines fuel rest
      | none => some rest

end Rollcall.Toml
