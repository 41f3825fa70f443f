/-!
A reproducible stream of random words: the key stream of the ChaCha cipher with twelve rounds, its key
grown from a 64-bit seed.
-/

namespace Metasearch.Random

def rotateLeft (x : UInt32) (n : UInt32) : UInt32 :=
  (x <<< n) ||| (x >>> (32 - n))

def rotateRight (x : UInt32) (n : UInt32) : UInt32 :=
  (x >>> n) ||| (x <<< ((32 - n) % 32))

/-- The sixteen words that a block is mixed from. -/
abbrev Block := Vector UInt32 16

/-- Mix four words of a block. -/
def quarterRound (s : Block) (a b c d : Fin 16) : Block :=
  let s := s.set a (s[a] + s[b])
  let s := s.set d (rotateLeft (s[d] ^^^ s[a]) 16)
  let s := s.set c (s[c] + s[d])
  let s := s.set b (rotateLeft (s[b] ^^^ s[c]) 12)
  let s := s.set a (s[a] + s[b])
  let s := s.set d (rotateLeft (s[d] ^^^ s[a]) 8)
  let s := s.set c (s[c] + s[d])
  s.set b (rotateLeft (s[b] ^^^ s[c]) 7)

/-- Mix a block once along its columns and once along its diagonals. -/
def doubleRound (s : Block) : Block :=
  let s := quarterRound s 0 4 8 12
  let s := quarterRound s 1 5 9 13
  let s := quarterRound s 2 6 10 14
  let s := quarterRound s 3 7 11 15
  let s := quarterRound s 0 5 10 15
  let s := quarterRound s 1 6 11 12
  let s := quarterRound s 2 7 8 13
  quarterRound s 3 4 9 14

/-- The words of the constant with which every block begins. -/
def sigma : Vector UInt32 4 :=
  #v[0x61707865, 0x3320646e, 0x79622d32, 0x6b206574]

/-- The block before mixing: constant, key, a 64-bit block number, and a zero nonce. -/
def startBlock (key : Vector UInt32 8) (number : UInt64) : Block :=
  (sigma ++ key ++ #v[number.toUInt32, (number >>> 32).toUInt32, 0, 0]).cast (by decide)

/-- One block of the stream: six double rounds, and the start added again. -/
def block (key : Vector UInt32 8) (number : UInt64) : Block :=
  let start := startBlock key number
  let mixed := (List.range 6).foldl (fun s _ => doubleRound s) start
  Vector.zipWith (· + ·) mixed start

/-- A place in a random stream. -/
structure Stream where
  key : Vector UInt32 8
  /-- How many 64-bit numbers were drawn before. -/
  drawn : Nat := 0
deriving DecidableEq, Repr

/-- One step of the generator from which keys are grown. -/
def seedStep (s : UInt64) : UInt64 :=
  s * 6364136223846793005 + 11634580027462260723

/-- The word that a state of that generator gives: its upper half, folded and rotated by the topmost
bits. -/
def seedWord (s : UInt64) : UInt32 :=
  rotateRight (((s >>> 18) ^^^ s) >>> 27).toUInt32 (s >>> 59).toUInt32

/-- The states of that generator after one step, two steps and so on. -/
def seedStates (seed : UInt64) : Nat → List UInt64
  | 0 => []
  | n + 1 => seedStep seed :: seedStates (seedStep seed) n

/-- The stream of a seed. -/
def Stream.ofSeed (seed : UInt64) : Stream :=
  let words := (seedStates seed 8).map seedWord
  { key := Vector.ofFn fun i => words.getD i 0 }

/-- Draw a 64-bit number: two words of the stream, the low one first. -/
def Stream.draw (stream : Stream) : UInt64 × Stream :=
  let words := block stream.key (UInt64.ofNat (stream.drawn / 8))
  let i := 2 * (stream.drawn % 8)
  let word := (words.toArray.getD i 0).toUInt64 ||| ((words.toArray.getD (i + 1) 0).toUInt64 <<< 32)
  (word, { stream with drawn := stream.drawn + 1 })

end Metasearch.Random
