/-!
# Hexadecimal digits
-/
namespace Rollcall.Text

def lowerHexDigit (n : Nat) : Char :=
  if n < 10 then Char.ofNat (48 + n) else Char.ofNat (87 + n)

def upperHexDigit (n : Nat) : Char :=
  if n < 10 then Char.ofNat (48 + n) else Char.ofNat (55 + n)

/-- The value of a hexadecimal digit of either case. -/
def hexDigit? (c : Char) : Option Nat :=
  if '0' ≤ c ∧ c ≤ '9' then some (c.toNat - 48)
  else if 'a' ≤ c ∧ c ≤ 'f' then some (c.toNat - 87)
  else if 'A' ≤ c ∧ c ≤ 'F' then some (c.toNat - 55)
  else none

/-- The low `width` hexadecimal digits of a number, the highest first. -/
def fixedHex : (width : Nat) → Nat → List Char
  | 0, _ => []
  | width + 1, n => fixedHex width (n / 16) ++ [lowerHexDigit (n % 16)]

/-- A number in hexadecimal without leading zeros, zero being a single digit. -/
def shortHex (n : Nat) : List Char := Nat.toDigits 16 n

end Rollcall.Text
