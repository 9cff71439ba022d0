/-!
# Decimal numerals of a bounded width

A numeral is an optional plus sign followed by one or more ASCII digits whose value stays within a
bound. A text that is none is refused for the leftmost place at which it goes wrong: a character
that is no digit, or the digit that carries the value past the bound.
-/
namespace Rollcall.Text

inductive NumeralFault where
  | empty
  | invalidDigit
  | tooLarge
  deriving DecidableEq, Repr

def NumeralFault.message : NumeralFault → String
  | .empty => "cannot parse integer from empty string"
  | .invalidDigit => "invalid digit found in string"
  | .tooLarge => "number too large to fit in target type"

def digit? (c : Char) : Option Nat :=
  if '0' ≤ c ∧ c ≤ '9' then some (c.toNat - '0'.toNat) else none

namespace Numeral

/-- Read digits from the left, `value` being what the digits before them amount to. -/
def readDigits (bound : Nat) : Nat → List Char → Except NumeralFault Nat
  | value, [] => .ok value
  | value, c :: rest =>
    match digit? c with
    | none => .error .invalidDigit
    | some d =>
      if value * 10 + d ≤ bound then readDigits bound (value * 10 + d) rest else .error .tooLarge

def readChars (bound : Nat) : List Char → Except NumeralFault Nat
  | [] => .error .empty
  | ['+'] => .error .invalidDigit
  | '+' :: rest => readDigits bound 0 rest
  | cs => readDigits bound 0 cs

/-- Read a whole text as a numeral of value at most `bound`. -/
def read (bound : Nat) (s : String) : Except NumeralFault Nat := readChars bound s.toList

end Numeral

def max16 : Nat := 65535
def max32 : Nat := 4294967295
def max64 : Nat := 18446744073709551615

end Rollcall.Text
