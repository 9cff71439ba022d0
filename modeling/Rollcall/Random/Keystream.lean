/-!
# The key stream of the random source

ChaCha with eight rounds. A block is computed from a key of eight words and a block counter; the
stream is the words of block zero, then of block one, and so on.
-/
namespace Rollcall.Random

abbrev Block := Vector UInt32 16

def rotateLeft (x : UInt32) (n : UInt32) : UInt32 := (x <<< n) ||| (x >>> (32 - n))

def quarterRound (s : Block) (a b c d : Fin 16) : Block :=
  let s := s.set a (s[a] + s[b])
  let s := s.set d (rotateLeft (s[d] ^^^ s[a]) 16)
  let s := s.set c (s[c] + s[d])
  let s := s.set b (rotateLeft (s[b] ^^^ s[c]) 12)
  let s := s.set a (s[a] + s[b])
  let s := s.set d (rotateLeft (s[d] ^^^ s[a]) 8)
  let s := s.set c (s[c] + s[d])
  s.set b (rotateLeft (s[b] ^^^ s[c]) 7)

/-- One round over the columns and one over the diagonals. -/
def doubleRound (s : Block) : Block :=
  let s := quarterRound s 0 4 8 12
  let s := quarterRound s 1 5 9 13
  let s := quarterRound s 2 6 10 14
  let s := quarterRound s 3 7 11 15
  let s := quarterRound s 0 5 10 15
  let s := quarterRound s 1 6 11 12
  let s := quarterRound s 2 7 8 13
  quarterRound s 3 4 9 14

/-- The block before the rounds: four constants, the key, a counter of 64 bits, and zeros. -/
def startingBlock (key : Vector UInt32 8) (counter : Nat) : Block :=
  #v[0x61707865, 0x3320646e, 0x79622d32, 0x6b206574,
     key[0], key[1], key[2], key[3], key[4], key[5], key[6], key[7],
     UInt32.ofNat counter, UInt32.ofNat (counter / 4294967296), 0, 0]

def block (key : Vector UInt32 8) (counter : Nat) : Block :=
  let s := startingBlock key counter
  let t := doubleRound (doubleRound (doubleRound (doubleRound s)))
  t.zipWith (· + ·) s

def word (key : Vector UInt32 8) (position : Nat) : UInt32 :=
  (block key (position / 16)).get ⟨position % 16, Nat.mod_lt _ (by decide)⟩

end Rollcall.Random
