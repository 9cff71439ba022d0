import Rollcall.Text.Numeral

/-!
# Decimals with an exponent

A decimal is a significand scaled by a power of ten. Readers that keep numbers in binary floating
point refuse a decimal too large for it: one that lies at or beyond the midpoint between the largest
double and the next power of two.
-/
namespace Rollcall.Text

structure Decimal where
  significand : Nat
  exponent : Int
  deriving DecidableEq, Repr

namespace Decimal

/-- The value of a row of digits, characters that are none counting as separators. -/
def digitsValue (cs : List Char) : Nat :=
  cs.foldl (fun v c => match digit? c with | some d => v * 10 + d | none => v) 0

def ofDigits (whole fraction : List Char) (exponent : Int) : Decimal :=
  ⟨digitsValue (whole ++ fraction), exponent - (fraction.countP Char.isDigit : Nat)⟩

/-- The least value that no double is near enough to. -/
def doubleBound : Nat := Nat.pow 2 1024 - Nat.pow 2 970

/-- The length of the significand settles all decimals but those near the bound. -/
def exceedsDouble (d : Decimal) : Bool :=
  let magnitude : Int := d.exponent + (Nat.toDigits 10 d.significand).length
  if d.significand = 0 ∨ magnitude < 300 then false
  else if magnitude > 320 then true
  else if d.exponent ≥ 0 then doubleBound ≤ d.significand * Nat.pow 10 d.exponent.toNat
  else doubleBound * Nat.pow 10 (-d.exponent).toNat ≤ d.significand

end Decimal

end Rollcall.Text
