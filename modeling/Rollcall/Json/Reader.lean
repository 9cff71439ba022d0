import Rollcall.Document.Basic
import Rollcall.Text.Decimal
import Rollcall.Text.Hex
import Rollcall.Text.Reading

/-!
# Reading JSON

A reader for whole texts. Numbers without a fraction or an exponent are integers, escapes that spell
half of a surrogate pair are refused, and so is nesting beyond 127 levels. A reading function gives
the value at the front of a text and what comes after it.
-/
namespace Rollcall.Json

open Text (Reading)

def isSpace (c : Char) : Bool := c = ' ' || c = '\n' || c = '\r' || c = '\t'

def skipSpace (cs : List Char) : List Char := cs.dropWhile isSpace

/-- The number that four hexadecimal digits write. -/
def readHex4 : List Char → Reading Nat
  | a :: b :: c :: d :: rest =>
    match Text.hexDigit? a, Text.hexDigit? b, Text.hexDigit? c, Text.hexDigit? d with
    | some a, some b, some c, some d => some (((a * 16 + b) * 16 + c) * 16 + d, rest)
    | _, _, _, _ => none
  | _ => none

/-- The character that follows `\u`, which may take a second escape to complete. -/
def readUnicode (cs : List Char) : Reading Char :=
  match readHex4 cs with
  | none => none
  | some (n, rest) =>
    if 0xDC00 ≤ n ∧ n ≤ 0xDFFF then none
    else if 0xD800 ≤ n ∧ n ≤ 0xDBFF then
      match rest with
      | '\\' :: 'u' :: rest =>
        match readHex4 rest with
        | some (m, rest) =>
          if 0xDC00 ≤ m ∧ m ≤ 0xDFFF then
            some (Char.ofNat (0x10000 + (n - 0xD800) * 0x400 + (m - 0xDC00)), rest)
          else none
        | none => none
      | _ => none
    else some (Char.ofNat n, rest)

def readEscape : List Char → Reading Char
  | '"' :: rest => some ('"', rest)
  | '\\' :: rest => some ('\\', rest)
  | '/' :: rest => some ('/', rest)
  | 'b' :: rest => some ('\x08', rest)
  | 'f' :: rest => some ('\x0c', rest)
  | 'n' :: rest => some ('\n', rest)
  | 'r' :: rest => some ('\r', rest)
  | 't' :: rest => some ('\t', rest)
  | 'u' :: rest => readUnicode rest
  | _ => none

/-- The rest of a text whose opening quote and first characters, in reverse, are behind. -/
def readQuoted : (fuel : Nat) → (before : List Char) → List Char → Reading String
  | 0, _, _ => none
  | _, _, [] => none
  | fuel + 1, before, c :: rest =>
    if c = '"' then some (String.ofList before.reverse, rest)
    else if c = '\\' then
      match readEscape rest with
      | some (e, rest) => readQuoted fuel (e :: before) rest
      | none => none
    else if c.toNat < 0x20 then none
    else readQuoted fuel (c :: before) rest

def readExponent (cs : List Char) : Reading (List Char) :=
  match cs with
  | [] => some ([], [])
  | e :: rest =>
    if e = 'e' ∨ e = 'E' then
      let (sign, rest) := match rest with
        | '+' :: r => (['+'], r)
        | '-' :: r => (['-'], r)
        | r => ([], r)
      match rest.takeWhile Char.isDigit with
      | [] => none
      | digits => some (e :: (sign ++ digits), rest.dropWhile Char.isDigit)
    else some ([], cs)

/-- A point and digits, if there is a point. -/
def readFraction (cs : List Char) : Reading (List Char) :=
  match cs with
  | '.' :: rest =>
    match rest.takeWhile Char.isDigit with
    | [] => none
    | digits => some (digits, rest.dropWhile Char.isDigit)
  | _ => some ([], cs)

def exponentValue (cs : List Char) : Int :=
  let v : Int := Text.Decimal.digitsValue cs
  if '-' ∈ cs then -v else v

/-- A number whose sign is behind. -/
def readNumber (negative : Bool) (cs : List Char) : Option (Document × List Char) := do
  let whole := cs.takeWhile Char.isDigit
  let rest := cs.dropWhile Char.isDigit
  if whole = [] ∨ (whole.head? = some '0' ∧ whole.length ≠ 1) then none
  let (fraction, rest) ← readFraction rest
  let (exponent, rest) ← readExponent rest
  let sign := if negative then "-" else ""
  if fraction = [] ∧ exponent = [] ∧ ¬ (negative ∧ whole = ['0']) then
    let v : Int := Text.Decimal.digitsValue whole
    some (.int (if negative then -v else v), rest)
  else if (Text.Decimal.ofDigits whole fraction (exponentValue exponent)).exceedsDouble then none
  else
    let point := if fraction = [] then [] else '.' :: fraction
    some (.real (sign ++ String.ofList (whole ++ point ++ exponent)), rest)

def readWord (word : String) (value : Document) (cs : List Char) : Reading Document :=
  if word.toList.isPrefixOf cs then some (value, cs.drop word.length) else none

mutual

/-- A value, `depth` being how many more levels it may have. Every step consumes a character. -/
def readValue : (fuel depth : Nat) → List Char → Reading Document
  | 0, _, _ => none
  | fuel + 1, depth, cs =>
    match skipSpace cs with
    | [] => none
    | '"' :: rest => (readQuoted fuel [] rest).map fun r => (.text r.1, r.2)
    | '-' :: rest => readNumber true rest
    | '[' :: rest =>
      match depth with
      | 0 => none
      | depth + 1 =>
        match skipSpace rest with
        | ']' :: rest => some (.list [], rest)
        | rest => (readItems fuel depth [] rest).map fun r => (.list r.1, r.2)
    | '\x7b' :: rest =>
      match depth with
      | 0 => none
      | depth + 1 =>
        match skipSpace rest with
        | '\x7d' :: rest => some (.table [], rest)
        | rest => (readFields fuel depth [] rest).map fun r => (.table r.1, r.2)
    | c :: rest =>
      if c = 'n' then readWord "null" .null (c :: rest)
      else if c = 't' then readWord "true" (.bool true) (c :: rest)
      else if c = 'f' then readWord "false" (.bool false) (c :: rest)
      else readNumber false (c :: rest)

/-- The items of a list from one of them on, those before it in reverse. -/
def readItems : (fuel depth : Nat) → (before : List Document) → List Char →
    Reading (List Document)
  | 0, _, _, _ => none
  | fuel + 1, depth, before, cs =>
    match readValue fuel depth cs with
    | none => none
    | some (d, rest) =>
      match skipSpace rest with
      | ',' :: rest => readItems fuel depth (d :: before) rest
      | ']' :: rest => some ((d :: before).reverse, rest)
      | _ => none

def readFields : (fuel depth : Nat) → (before : List (String × Document)) → List Char →
    Reading (List (String × Document))
  | 0, _, _, _ => none
  | fuel + 1, depth, before, cs =>
    match skipSpace cs with
    | '"' :: rest =>
      match readQuoted fuel [] rest with
      | none => none
      | some (k, rest) =>
        match skipSpace rest with
        | ':' :: rest =>
          match readValue fuel depth rest with
          | none => none
          | some (d, rest) =>
            match skipSpace rest with
            | ',' :: rest => readFields fuel depth ((k, d) :: before) rest
            | '\x7d' :: rest => some (((k, d) :: before).reverse, rest)
            | _ => none
        | _ => none
    | _ => none

end

/-- How deep a document may be nested. -/
def maxDepth : Nat := 127

def read (s : String) : Option Document :=
  let cs := s.toList
  match readValue (2 * cs.length + 2) maxDepth cs with
  | some (d, rest) => if skipSpace rest = [] then some d else none
  | none => none

end Rollcall.Json
