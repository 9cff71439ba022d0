/-!
# Blank characters

The characters with the Unicode property White_Space, and trimming them from both ends of a text.
-/
namespace Rollcall.Text

/-- The Unicode property White_Space. -/
def isBlank (c : Char) : Bool :=
  let n := c.toNat
  (9 ≤ n && n ≤ 13) || n == 0x20 || n == 0x85 || n == 0xA0 || n == 0x1680 ||
    (0x2000 ≤ n && n ≤ 0x200A) || n == 0x2028 || n == 0x2029 || n == 0x202F || n == 0x205F ||
    n == 0x3000

def trimChars (p : Char → Bool) (cs : List Char) : List Char :=
  ((cs.dropWhile p).reverse.dropWhile p).reverse

def trim (s : String) : String := String.ofList (trimChars isBlank s.toList)

def isBlankText (s : String) : Bool := s.toList.all isBlank

def dropLeading (c : Char) (s : String) : String := String.ofList (s.toList.dropWhile (· = c))

end Rollcall.Text
