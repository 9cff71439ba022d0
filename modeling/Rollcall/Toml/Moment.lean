import Rollcall.Text.Numeral
import Rollcall.Text.Reading

/-!
# Dates and times in TOML

A moment is a date, a time of day, or a date followed by a time of day, which may then have an
offset. Dates are those of the calendar, and a minute may have a leap second.
-/
namespace Rollcall.Toml

open Text (Reading)

def readFixed (width low high : Nat) (cs : List Char) : Reading Nat :=
  match (cs.take width).mapM Text.digit? with
  | none => none
  | some digits =>
    let n := digits.foldl (fun v d => v * 10 + d) 0
    if digits.length = width ∧ low ≤ n ∧ n ≤ high then some (n, cs.drop width) else none

def isLeapYear (year : Nat) : Bool := year % 4 = 0 && (year % 100 ≠ 0 || year % 400 = 0)

def daysIn (year month : Nat) : Nat :=
  if month = 2 then (if isLeapYear year then 29 else 28)
  else if month = 4 ∨ month = 6 ∨ month = 9 ∨ month = 11 then 30
  else 31

def afterDate (cs : List Char) : Option (List Char) := do
  let (year, cs) ← readFixed 4 0 9999 cs
  let cs ← Text.expect '-' cs
  let (month, cs) ← readFixed 2 1 12 cs
  let cs ← Text.expect '-' cs
  let (_, cs) ← readFixed 2 1 (daysIn year month) cs
  return cs

def afterFraction : List Char → Option (List Char)
  | '.' :: c :: rest => if c.isDigit then some (rest.dropWhile Char.isDigit) else none
  | '.' :: [] => none
  | cs => some cs

def afterTime (cs : List Char) : Option (List Char) := do
  let (_, cs) ← readFixed 2 0 23 cs
  let cs ← Text.expect ':' cs
  let (_, cs) ← readFixed 2 0 59 cs
  let cs ← Text.expect ':' cs
  let (_, cs) ← readFixed 2 0 60 cs
  afterFraction cs

def afterOffsetSpan (cs : List Char) : Option (List Char) := do
  let (_, cs) ← readFixed 2 0 23 cs
  let cs ← Text.expect ':' cs
  let (_, cs) ← readFixed 2 0 59 cs
  return cs

def afterOffset : List Char → Option (List Char)
  | 'Z' :: rest => some rest
  | 'z' :: rest => some rest
  | '+' :: rest => afterOffsetSpan rest
  | '-' :: rest => afterOffsetSpan rest
  | cs => some cs

def afterMoment (cs : List Char) : Option (List Char) :=
  match afterDate cs with
  | none => afterTime cs
  | some rest =>
    match rest with
    | [] => some []
    | c :: later =>
      if c = 'T' ∨ c = 't' ∨ c = ' ' then
        match afterTime later with
        | some later => afterOffset later
        | none => some rest
      else some rest

def readMoment (cs : List Char) : Reading String :=
  (afterMoment cs).map fun rest =>
    (String.ofList (cs.take (cs.length - rest.length)), rest)

end Rollcall.Toml
