import Rollcall.Text.Hex
import Rollcall.Toml.Space

/-!
# Texts in TOML

A text stands between quotes. Double quotes allow escapes, single quotes none; either kind tripled
may hold line ends, each of which counts as a line feed, and drops one right after the opening. Up
to two quotes may stand before a closing triple.
-/
namespace Rollcall.Toml

open Text (Reading)

def readCode (width : Nat) (cs : List Char) : Reading Char :=
  let digits := cs.take width
  match digits.mapM Text.hexDigit? with
  | none => none
  | some values =>
    let n := values.foldl (fun v d => v * 16 + d) 0
    if values.length = width ∧ n.isValidChar then some (Char.ofNat n, cs.drop width) else none

def readEscape : List Char → Reading Char
  | 'b' :: rest => some ('\x08', rest)
  | 'f' :: rest => some ('\x0c', rest)
  | 'n' :: rest => some ('\n', rest)
  | 'r' :: rest => some ('\r', rest)
  | 't' :: rest => some ('\t', rest)
  | '"' :: rest => some ('"', rest)
  | '\\' :: rest => some ('\\', rest)
  | 'u' :: rest => readCode 4 rest
  | 'U' :: rest => readCode 8 rest
  | _ => none

/-- The rest of a text in double quotes, the characters before it in reverse. -/
def readBasic : (fuel : Nat) → (before : List Char) → List Char → Reading String
  | 0, _, _ => none
  | _, _, [] => none
  | fuel + 1, before, c :: rest =>
    if c = '"' then some (String.ofList before.reverse, rest)
    else if c = '\\' then
      match readEscape rest with
      | some (e, rest) => readBasic fuel (e :: before) rest
      | none => none
    else if isControl c then none
    else readBasic fuel (c :: before) rest

def readLiteral (cs : List Char) : Reading String :=
  match cs.dropWhile fun c => c ≠ '\'' ∧ ¬ isControl c with
  | '\'' :: rest =>
    some (String.ofList (cs.takeWhile fun c => c ≠ '\'' ∧ ¬ isControl c), rest)
  | _ => none

/-- A backslash at the end of a line joins it to the next text: skip all blanks and line ends. -/
def skipJoin (cs : List Char) : Option (List Char) :=
  (newline? (skipSpace cs)).map fun rest => skipBlanks rest.length rest
where
  skipBlanks : Nat → List Char → List Char
    | 0, cs => cs
    | fuel + 1, cs =>
      match newline? (skipSpace cs) with
      | some rest => skipBlanks fuel rest
      | none => skipSpace cs

def readLong (quote : Char) (escapes : Bool) :
    (fuel : Nat) → (before : List Char) → List Char → Reading String
  | 0, _, _ => none
  | _, _, [] => none
  | fuel + 1, before, c :: rest =>
    if c = quote then
      let run := (c :: rest).takeWhile (· = quote)
      let after := (c :: rest).dropWhile (· = quote)
      if run.length < 3 then readLong quote escapes fuel (run ++ before) after
      else if run.length ≤ 5 then
        some (String.ofList (before.reverse ++ run.drop 3), after)
      else none
    else if escapes ∧ c = '\\' then
      match readEscape rest with
      | some (e, rest) => readLong quote escapes fuel (e :: before) rest
      | none =>
        match skipJoin rest with
        | some rest => readLong quote escapes fuel before rest
        | none => none
    else
      match newline? (c :: rest) with
      | some rest => readLong quote escapes fuel ('\n' :: before) rest
      | none => if isControl c then none else readLong quote escapes fuel (c :: before) rest

/-- Drop a line end right after the opening quotes. -/
def dropFirstNewline (cs : List Char) : List Char := (newline? cs).getD cs

def readText : List Char → Reading String
  | '"' :: '"' :: '"' :: rest => readLong '"' true (rest.length + 1) [] (dropFirstNewline rest)
  | '\'' :: '\'' :: '\'' :: rest =>
    readLong '\'' false (rest.length + 1) [] (dropFirstNewline rest)
  | '"' :: rest => readBasic (rest.length + 1) [] rest
  | '\'' :: rest => readLiteral rest
  | _ => none

def isBareKeyChar (c : Char) : Bool := c.isAlphanum || c = '_' || c = '-'

/-- One part of a key. -/
def readKeyPart : List Char → Reading String
  | '"' :: rest => readBasic (rest.length + 1) [] rest
  | '\'' :: rest => readLiteral rest
  | cs =>
    match cs.takeWhile isBareKeyChar with
    | [] => none
    | part => some (String.ofList part, cs.dropWhile isBareKeyChar)

/-- The parts of a key with points between them, at most `bound` of them. -/
def readKey : (bound : Nat) → List Char → Reading (List String)
  | 0, _ => none
  | bound + 1, cs =>
    match readKeyPart (skipSpace cs) with
    | none => none
    | some (part, rest) =>
      match skipSpace rest with
      | '.' :: rest => (readKey bound rest).map fun r => (part :: r.1, r.2)
      | rest => some ([part], rest)

/-- How many parts a key may have, and how deep a value may be nested. -/
def maxDepth : Nat := 79

end Rollcall.Toml
