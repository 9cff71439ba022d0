import Rollcall.Document.Basic
import Rollcall.Text.Decimal
import Rollcall.Text.Hex
import Rollcall.Text.Reading

/-!
# Numbers in TOML

Underscores may stand between digits. Integers have a sign and 64 bits; those in base sixteen,
eight or two have no sign. A float has a fraction, an exponent, or both, or is one of the words for
infinity and no number; one too large for a double is refused unless it is negative.
-/
namespace Rollcall.Toml

open Text (Reading)

/-- Digits of a class, an underscore being allowed between two of them. -/
def readDigits (isDigit : Char → Bool) : List Char → Reading (List Char)
  | [] => none
  | c :: rest => if isDigit c then some (go c rest) else none
where
  go (c : Char) : List Char → List Char × List Char
    | [] => ([c], [])
    | [d] => if isDigit d then ([c, d], []) else ([c], [d])
    | d :: e :: rest =>
      if isDigit d then
        let r := go d (e :: rest)
        (c :: r.1, r.2)
      else if d = '_' ∧ isDigit e then
        let r := go e rest
        (c :: r.1, r.2)
      else ([c], d :: e :: rest)

/-- The integers of 64 bits. -/
def inRange (n : Int) : Bool := -9223372036854775808 ≤ n && n ≤ 9223372036854775807

/-- An integer in another base, its mark being behind. -/
def readBased (base : Nat) (cs : List Char) : Reading Document :=
  let isDigit (c : Char) : Bool :=
    match Text.hexDigit? c with
    | some d => d < base
    | none => false
  match readDigits isDigit cs with
  | none => none
  | some (digits, rest) =>
    let n : Nat := digits.foldl (fun v c => v * base + (Text.hexDigit? c).getD 0) 0
    if inRange n then some (.int n, rest) else none

/-- The digits before a point or an exponent: a zero alone, or digits of which the first is none. -/
def readWhole (cs : List Char) : Reading (List Char) :=
  match cs with
  | '0' :: rest => some (['0'], rest)
  | _ => readDigits Char.isDigit cs

def readExponent : List Char → Option ((Bool × List Char) × List Char)
  | [] => some ((false, []), [])
  | e :: rest =>
    if e = 'e' ∨ e = 'E' then
      let (negative, rest) := match rest with
        | '+' :: r => (false, r)
        | '-' :: r => (true, r)
        | r => (false, r)
      (readDigits Char.isDigit rest).map fun r => ((negative, r.1), r.2)
    else some ((false, []), e :: rest)

/-- A fraction after its point, if there is a point. -/
def readFraction : List Char → Reading (List Char)
  | '.' :: rest => readDigits Char.isDigit rest
  | cs => some ([], cs)

def readDecimal (negative : Bool) (cs : List Char) : Reading Document :=
  match readWhole cs with
  | none => none
  | some (whole, rest) =>
    match readFraction rest with
    | none => none
    | some (fraction, rest) =>
      match readExponent rest with
      | none => none
      | some ((down, exponent), rest) =>
        let sign := if negative then "-" else ""
        if fraction = [] ∧ exponent = [] then
          let v : Int := Text.Decimal.digitsValue whole
          let n := if negative then -v else v
          if inRange n then some (.int n, rest) else none
        else
          let e : Int := Text.Decimal.digitsValue exponent
          let e := if down then -e else e
          if (Text.Decimal.ofDigits whole fraction e).exceedsDouble && !negative then none
          else
            let point := if fraction = [] then [] else '.' :: fraction
            let power := if exponent = [] then [] else
              'e' :: ((if down then ['-'] else []) ++ exponent)
            some (.real (sign ++ String.ofList (whole ++ point ++ power)), rest)

def readUnsigned (negative : Bool) (cs : List Char) : Reading Document :=
  match cs with
  | 'i' :: 'n' :: 'f' :: rest => some (.real (if negative then "-inf" else "inf"), rest)
  | 'n' :: 'a' :: 'n' :: rest => some (.real (if negative then "-nan" else "nan"), rest)
  | _ => readDecimal negative cs

def readNumber : List Char → Reading Document
  | '0' :: 'x' :: rest => readBased 16 rest
  | '0' :: 'o' :: rest => readBased 8 rest
  | '0' :: 'b' :: rest => readBased 2 rest
  | '+' :: rest => readUnsigned false rest
  | '-' :: rest => readUnsigned true rest
  | cs => readUnsigned false cs

end Rollcall.Toml
