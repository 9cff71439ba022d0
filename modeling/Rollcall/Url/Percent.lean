import Rollcall.Text.Hex
import Rollcall.Text.Utf8

/-!
# Percent encoding

A character that a part of a URL may not hold is written as its UTF-8 bytes, each a percent sign and
two hexadecimal digits in upper case. Which characters those are depends on the part.
-/
namespace Rollcall.Url

/-- Controls and everything beyond ASCII are encoded everywhere. -/
def isAlwaysEncoded (c : Char) : Bool := c.toNat < 0x20 || 0x7F ≤ c.toNat

def isEncodedInFragment (c : Char) : Bool :=
  isAlwaysEncoded c || c = ' ' || c = '"' || c = '<' || c = '>' || c = '`'

def isEncodedInPath (c : Char) : Bool :=
  isEncodedInFragment c || c = '#' || c = '?' || c = '\x7b' || c = '\x7d'

def isEncodedInUserinfo (c : Char) : Bool :=
  isEncodedInPath c || c = '/' || c = ':' || c = ';' || c = '=' || c = '@' || c = '[' || c = '\\' ||
    c = ']' || c = '^' || c = '|'

/-- In the queries of schemes with a web host an apostrophe is encoded too. -/
def isEncodedInQuery (special : Bool) (c : Char) : Bool :=
  isAlwaysEncoded c || c = ' ' || c = '"' || c = '#' || c = '<' || c = '>' ||
    (special && c = '\'')

def encodeByte (b : UInt8) : List Char :=
  ['%', Text.upperHexDigit (b.toNat / 16), Text.upperHexDigit (b.toNat % 16)]

def encodeChar (isEncoded : Char → Bool) (c : Char) : List Char :=
  if isEncoded c then (String.utf8EncodeChar c).flatMap encodeByte else [c]

def percentEncode (isEncoded : Char → Bool) (cs : List Char) : List Char :=
  cs.flatMap (encodeChar isEncoded)

/-- The bytes that a text stands for, a percent sign without two digits standing for itself. -/
def percentDecode : List Char → List UInt8
  | '%' :: a :: b :: rest =>
    match Text.hexDigit? a, Text.hexDigit? b with
    | some x, some y => UInt8.ofNat (x * 16 + y) :: percentDecode rest
    | _, _ => '%'.toUInt8 :: percentDecode (a :: b :: rest)
  | c :: rest => String.utf8EncodeChar c ++ percentDecode rest
  | [] => []

end Rollcall.Url
