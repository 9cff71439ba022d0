import Rollcall.Text.CaseTable

/-!
# Lower case

The full lower case mapping of a text. It goes character by character with two exceptions: a capital
I with a dot becomes an i and a combining dot, and a capital sigma that ends a word takes its final
form.
-/
namespace Rollcall.Text

def inRanges (ranges : List (Nat × Nat)) (n : Nat) : Bool :=
  ranges.any fun r => r.1 ≤ n && n ≤ r.2

/-- The simple lower case mapping. -/
def lowerChar (c : Char) : Char :=
  let n := c.toNat
  match CaseTable.lowerings.find? fun r => r.1 ≤ n && n ≤ r.2.1 && (n - r.1) % r.2.2.1 == 0 with
  | some r => Char.ofNat (n + r.2.2.2).toNat
  | none => c

/-- The first character that is not passed over has case. -/
def startsCased (cs : List Char) : Bool :=
  match cs.dropWhile fun c => inRanges CaseTable.ignorable c.toNat with
  | [] => false
  | c :: _ => inRanges CaseTable.cased c.toNat

/-- Lower case of what follows `before`, which is given in reverse. -/
def lowerFrom (before : List Char) : List Char → List Char
  | [] => []
  | c :: rest =>
    let lowered :=
      if c = 'Σ' then
        if startsCased before && !startsCased rest then ['ς'] else ['σ']
      else if c = 'İ' then ['i', '\u0307']
      else [lowerChar c]
    lowered ++ lowerFrom (c :: before) rest

def lowercase (s : String) : String := String.ofList (lowerFrom [] s.toList)

end Rollcall.Text
