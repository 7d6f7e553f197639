import Crowfoot.Random.Generator

/-!
# The ChaCha stream as a generator

The words are the key stream of ChaCha with twelve rounds, for a key or for one that is derived
from a seed. A draw of 64 bits takes two words, the lower half first.
-/

namespace Crowfoot

/-- A key, the number of the next block, and the words left of the block before it. -/
structure ChaCha where
  key : List UInt32
  block : UInt64
  left : List UInt32
  deriving Repr

namespace ChaCha

/-- The word with its bits moved left by that many places, in a circle. -/
def rotateLeft (w n : UInt32) : UInt32 := (w <<< n) ||| (w >>> (32 - n))

/-- One quarter of a round, on the words at four places. -/
def quarterRound (s : Vector UInt32 16) (places : Fin 16 × Fin 16 × Fin 16 × Fin 16) :
    Vector UInt32 16 :=
  let (ia, ib, ic, id) := places
  let a := s[ia] + s[ib]
  let d := rotateLeft (s[id] ^^^ a) 16
  let c := s[ic] + d
  let b := rotateLeft (s[ib] ^^^ c) 12
  let a := a + b
  let d := rotateLeft (d ^^^ a) 8
  let c := c + d
  let b := rotateLeft (b ^^^ c) 7
  (((s.set ia a).set ib b).set ic c).set id d

/-- The places of a round on the columns and of a round on the diagonals. -/
def places : List (Fin 16 × Fin 16 × Fin 16 × Fin 16) := [
  (0, 4, 8, 12), (1, 5, 9, 13), (2, 6, 10, 14), (3, 7, 11, 15),
  (0, 5, 10, 15), (1, 6, 11, 12), (2, 7, 8, 13), (3, 4, 9, 14)]

/-- Two rounds. -/
def doubleRound (s : Vector UInt32 16) : Vector UInt32 16 := places.foldl quarterRound s

/-- The words that begin every block. -/
def constants : List UInt32 := [0x61707865, 0x3320646e, 0x79622d32, 0x6b206574]

/-- The words from which a block is made: constants, key, number of the block, zeros. -/
def input (key : List UInt32) (block : UInt64) : Vector UInt32 16 :=
  let words := constants ++ key ++ [block.toUInt32, (block >>> 32).toUInt32, 0, 0]
  Vector.ofFn fun i => words[i]?.getD 0

/-- The words of a block. -/
def blockWords (key : List UInt32) (block : UInt64) : List UInt32 :=
  let start := input key block
  (start.zipWith (· + ·) (Nat.repeat doubleRound 6 start)).toList

/-- The next word. -/
def next (g : ChaCha) : UInt32 × ChaCha :=
  match g.left with
  | w :: rest => (w, { g with left := rest })
  | [] =>
    let words := blockWords g.key g.block
    (words.headD 0, { g with block := g.block + 1, left := words.tail })

instance : Generator ChaCha where
  draw32 := next
  draw64 g :=
    let (low, g) := g.next
    let (high, g) := g.next
    (low.toUInt64 ||| (high.toUInt64 <<< 32), g)

/-! ## Seeds -/

/-- The state after a state of the generator that makes keys. -/
def seedStep (s : UInt64) : UInt64 := s * 6364136223846793005 + 11634580027462260723

/-- The word that a state of that generator gives. -/
def seedWord (s : UInt64) : UInt32 :=
  let x := (((s >>> 18) ^^^ s) >>> 27).toUInt32
  let n := (s >>> 59).toUInt32
  (x >>> n) ||| (x <<< (32 - n))

/-- That many words of a key, from the state before them. -/
def keyWords : Nat → UInt64 → List UInt32
  | 0, _ => []
  | n + 1, s => seedWord (seedStep s) :: keyWords n (seedStep s)

/-- The generator for a seed. -/
def ofSeed (seed : UInt64) : ChaCha := ⟨keyWords 8 seed, 0, []⟩

/-- The generator for a key. Its words are those of the number, the lowest first. -/
def ofKey (key : BitVec 256) : ChaCha :=
  ⟨(List.range 8).map fun i => .ofBitVec (key.extractLsb' (32 * i) 32), 0, []⟩

end ChaCha

end Crowfoot
