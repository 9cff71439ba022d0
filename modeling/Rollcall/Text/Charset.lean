import Rollcall.Text.Utf8

/-!
# Character encodings of bodies

A body is text in the encoding that its content type names, in UTF-8 if it names none. A byte order
mark at the start overrules the name and is no part of the text.
-/
namespace Rollcall.Text

inductive Charset where
  | utf8
  | windows1252
  | utf16 (bigEndian : Bool)
  deriving DecidableEq, Repr

namespace Charset

def westernNames : List String :=
  ["windows-1252", "cp1252", "x-cp1252", "ansi_x3.4-1968", "ascii", "us-ascii", "iso-8859-1",
   "iso8859-1", "iso88591", "iso_8859-1", "iso_8859-1:1987", "iso-ir-100", "csisolatin1",
   "latin1", "l1", "cp819", "ibm819"]

/-- The encoding of a name in lower case; UTF-8 for a name that is not known. -/
def ofName (name : String) : Charset :=
  if name ∈ westernNames then windows1252
  else if name ∈ ["utf-16", "utf-16le", "csunicode", "iso-10646-ucs-2", "ucs-2", "unicode",
    "unicodefeff"] then utf16 false
  else if name ∈ ["utf-16be", "unicodefffe"] then utf16 true
  else utf8

/-- The characters that Windows 1252 has where Latin 1 has controls. -/
def windowsExtras : List Nat :=
  [0x20AC, 0x81, 0x201A, 0x192, 0x201E, 0x2026, 0x2020, 0x2021, 0x2C6, 0x2030, 0x160, 0x2039,
   0x152, 0x8D, 0x17D, 0x8F, 0x90, 0x2018, 0x2019, 0x201C, 0x201D, 0x2022, 0x2013, 0x2014, 0x2DC,
   0x2122, 0x161, 0x203A, 0x153, 0x9D, 0x17E, 0x178]

def decodeWindowsByte (b : UInt8) : Char :=
  if 0x80 ≤ b.toNat ∧ b.toNat < 0xA0 then Char.ofNat (windowsExtras.getD (b.toNat - 0x80) 0xFFFD)
  else Char.ofNat b.toNat

/-- The units of sixteen bits that bytes make up, a last odd byte being damage. -/
def units (bigEndian : Bool) : List UInt8 → List (Option Nat)
  | a :: b :: rest =>
    some (if bigEndian then a.toNat * 256 + b.toNat else b.toNat * 256 + a.toNat) ::
      units bigEndian rest
  | [_] => [none]
  | [] => []

/-- The characters that units make up, half a pair being damage. -/
def decodeUnits : List (Option Nat) → List Char
  | [] => []
  | none :: rest => Utf8.replacement :: decodeUnits rest
  | some u :: some v :: rest =>
    if 0xD800 ≤ u ∧ u < 0xDC00 then
      if 0xDC00 ≤ v ∧ v < 0xE000 then
        Char.ofNat (0x10000 + (u - 0xD800) * 0x400 + (v - 0xDC00)) :: decodeUnits rest
      else Utf8.replacement :: decodeUnits (some v :: rest)
    else if 0xDC00 ≤ u ∧ u < 0xE000 then Utf8.replacement :: decodeUnits (some v :: rest)
    else Char.ofNat u :: decodeUnits (some v :: rest)
  | some u :: rest =>
    (if 0xD800 ≤ u ∧ u < 0xE000 then Utf8.replacement else Char.ofNat u) :: decodeUnits rest

/-- The encoding that a byte order mark names, and the bytes after the mark. -/
def ofMark? : List UInt8 → Option (Charset × List UInt8)
  | 0xEF :: 0xBB :: 0xBF :: rest => some (utf8, rest)
  | 0xFE :: 0xFF :: rest => some (utf16 true, rest)
  | 0xFF :: 0xFE :: rest => some (utf16 false, rest)
  | _ => none

def decodePlain (c : Charset) (bytes : List UInt8) : String :=
  match c with
  | utf8 => Utf8.decodeLossy bytes
  | windows1252 => String.ofList (bytes.map decodeWindowsByte)
  | utf16 bigEndian => String.ofList (decodeUnits (units bigEndian bytes))

def decode (c : Charset) (bytes : List UInt8) : String :=
  match ofMark? bytes with
  | some (c, rest) => c.decodePlain rest
  | none => c.decodePlain bytes

def ofContentType (contentType : String) : Charset :=
  let parameters := (contentType.splitOn ";").drop 1
  let values := parameters.filterMap fun p =>
    match p.splitOn "=" with
    | [name, value] =>
      if (String.ofList (name.toList.filter (· ≠ ' '))).toLower = "charset" then
        some (String.ofList (value.toList.filter fun c => c ≠ ' ' ∧ c ≠ '"')).toLower
      else none
    | _ => none
  match values with
  | name :: _ => ofName name
  | [] => utf8

end Charset

end Rollcall.Text
