/-!
# Reading UTF-8 that may be damaged

Bytes that encode no character are replaced: each longest run of bytes that could begin a character
but does not complete one, or a byte that can begin none, becomes one replacement character.
-/
namespace Rollcall.Text.Utf8

def replacement : Char := '\uFFFD'

/-- How a leading byte goes on: how many bytes follow, the bits it contributes, and the range of
the byte after it. -/
structure Lead where
  more : Nat
  bits : Nat
  low : Nat
  high : Nat

def lead? (b : Nat) : Option Lead :=
  if b < 0x80 then some ⟨0, b, 0, 0⟩
  else if b < 0xC2 then none
  else if b < 0xE0 then some ⟨1, b - 0xC0, 0x80, 0xBF⟩
  else if b = 0xE0 then some ⟨2, 0, 0xA0, 0xBF⟩
  else if b = 0xED then some ⟨2, 0xD, 0x80, 0x9F⟩
  else if b < 0xF0 then some ⟨2, b - 0xE0, 0x80, 0xBF⟩
  else if b = 0xF0 then some ⟨3, 0, 0x90, 0xBF⟩
  else if b < 0xF4 then some ⟨3, b - 0xF0, 0x80, 0xBF⟩
  else if b = 0xF4 then some ⟨3, 4, 0x80, 0x8F⟩
  else none

/-- Read `more` further bytes of a character, the first of them within its range. -/
def continueChar : (more value low high : Nat) → List UInt8 → Option Char × List UInt8
  | 0, value, _, _, rest => (some (Char.ofNat value), rest)
  | more + 1, value, low, high, bytes =>
    match bytes with
    | [] => (none, [])
    | b :: rest =>
      if low ≤ b.toNat ∧ b.toNat ≤ high then
        continueChar more (value * 64 + (b.toNat - 0x80)) 0x80 0xBF rest
      else (none, b :: rest)

/-- Read one character or one damaged run; `fuel` bounds the bytes. -/
def decodeFrom : (fuel : Nat) → List UInt8 → List Char
  | 0, _ => []
  | _, [] => []
  | fuel + 1, b :: rest =>
    match lead? b.toNat with
    | none => replacement :: decodeFrom fuel rest
    | some l =>
      match continueChar l.more l.bits l.low l.high rest with
      | (some c, rest) => c :: decodeFrom fuel rest
      | (none, rest) => replacement :: decodeFrom fuel rest

def decodeLossy (bytes : List UInt8) : String := String.ofList (decodeFrom bytes.length bytes)

end Rollcall.Text.Utf8
