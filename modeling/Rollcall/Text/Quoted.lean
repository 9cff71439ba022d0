import Rollcall.Text.Hex
import Rollcall.Text.Lowercase
import Rollcall.Text.QuotedTable

/-!
# Quoted texts

A text between double quotes, for showing. Quotes and backslashes are escaped, the common controls
have short names, and every other character that cannot be shown on its own is spelled out by its
code point in braces.
-/
namespace Rollcall.Text.Quoted

def isSpelledOut (c : Char) : Bool :=
  if c.toNat < 0x10000 then inRanges QuotedTable.basic c.toNat
  else inRanges QuotedTable.supplementary c.toNat

def encodeChar (c : Char) : List Char :=
  match c with
  | '"' => ['\\', '"']
  | '\\' => ['\\', '\\']
  | '\n' => ['\\', 'n']
  | '\r' => ['\\', 'r']
  | '\t' => ['\\', 't']
  | '\x00' => ['\\', '0']
  | c =>
    if isSpelledOut c then ['\\', 'u', '\x7b'] ++ shortHex c.toNat ++ ['\x7d'] else [c]

def encode (s : String) : String :=
  String.ofList ('"' :: (s.toList.flatMap encodeChar ++ ['"']))

end Rollcall.Text.Quoted
