import Rollcall.Random.Keystream

/-!
# Seeded choices

A random source is a key and the number of stream words drawn from it so far. A choice among `n`
takes the upper half of the product of `n` and a 64-bit draw, and draws again when the lower half
lies in the part that would favour some outcomes. At least half of all draws are accepted, so the
number of repetitions is bounded here by more than will ever be met.
-/
namespace Rollcall

structure RandomSource where
  key : Vector UInt32 8
  position : Nat

namespace RandomSource

open Rollcall.Random

/-- The step of the generator that expands a seed. -/
def expandStep (state : UInt64) : UInt64 := state * 6364136223846793005 + 11634580027462260723

def expandOutput (state : UInt64) : UInt32 :=
  let x := (((state >>> 18) ^^^ state) >>> 27).toUInt32
  let r := (state >>> 59).toUInt32
  (x >>> r) ||| (x <<< ((32 - r) % 32))

/-- The first `n` words that follow a state. -/
def expand : Nat → UInt64 → List UInt32
  | 0, _ => []
  | n + 1, state => expandOutput (expandStep state) :: expand n (expandStep state)

@[simp] theorem length_expand (n : Nat) (state : UInt64) : (expand n state).length = n := by
  induction n generalizing state with
  | zero => rfl
  | succ n ih => simp [expand, ih]

def ofSeed (seed : Nat) : RandomSource :=
  { key := ⟨(expand 8 (UInt64.ofNat seed)).toArray, by simp⟩, position := 0 }

/-- Two words of the stream as one number, the low word first. -/
def next64 (r : RandomSource) : Nat × RandomSource :=
  ((word r.key r.position).toNat + 4294967296 * (word r.key (r.position + 1)).toNat,
    { r with position := r.position + 2 })

/-- How many different draws there are. -/
def drawCount : Nat := 18446744073709551616

/-- The largest lower half that is accepted in a choice among `n`. -/
def zone (n : Nat) : Nat := n * Nat.pow 2 (63 - Nat.log2 n) - 1

/-- How often a draw may be repeated. -/
def patience : Nat := 4096

def chooseFrom (n : Nat) : (fuel : Nat) → RandomSource → Fin (n + 1) × RandomSource
  | 0, r => (0, r)
  | fuel + 1, r =>
    let (v, r) := r.next64
    let product := v * (n + 1)
    if product % drawCount ≤ zone (n + 1) then (Fin.ofNat (n + 1) (product / drawCount), r)
    else chooseFrom n fuel r

def choose (n : Nat) (r : RandomSource) : Fin (n + 1) × RandomSource := chooseFrom n patience r

end RandomSource

end Rollcall
